import GatewayF411.Lib.Cells
import GatewayF411.Radio433

set_option autoImplicit false

namespace GatewayF411
open Runs Cells

/-- The part of `struct ax5043_config` that the transmitter and the receiver use. -/
structure Ax5043Config where
  axradioPhyPreambleLen : UInt8
  axradioPhyPreambleByte : UInt8
  axradioPhyPreambleFlags : UInt8
  axradioPhyPreambleAppendbits : UInt8
  axradioPhyPreambleAppendpattern : UInt8
  axradioPhyRssioffset : Int8
  axradioFramingSynclen : UInt8
  axradioFramingSyncflags : UInt8
  axradioFramingSyncword : List UInt8

def rf433ConfigInit : Ax5043Config where
  axradioPhyPreambleLen := 32
  axradioPhyPreambleByte := 0x55
  axradioPhyPreambleFlags := 0x38
  axradioPhyPreambleAppendbits := 0
  axradioPhyPreambleAppendpattern := 0x00
  axradioPhyRssioffset := 64
  axradioFramingSynclen := 32
  axradioFramingSyncflags := 0x38
  axradioFramingSyncword := [0xcc,0xaa,0xcc,0xaa]

/-- Registers that keep what `set_registers_433` writes to them. -/
def regModulation : UInt8 := 0x08
def regPktaddrcfg : UInt8 := 0x00

/-- `struct ax5043` with the transmit buffer, and the bytes written to the FIFO of the chip
since it was cleared. -/
structure TxDevice extends Rf433 where
  txBuff : Nat → UInt8
  fifo : List UInt8

/-- How an iteration of `TransmitData` ends. -/
inductive TxPass where
  | again (dev : TxDevice)
  | done (dev : TxDevice)

namespace TxDevice

def spiWrite (bytes : List UInt8) (dev : TxDevice) : TxDevice :=
  { dev with fifo := dev.fifo ++ bytes }

def pktend (dev : TxDevice) : TxPass := .done { dev with ubRfState := .txWaitdone }

def fifocommit (dev : TxDevice) : TxPass := pktend dev

/-- The `bits` bits of a byte that is to be sent in part, and the stop bit after them. -/
def stopBit (byte bits : UInt8) : UInt8 :=
  let mask : UInt32 := if regPktaddrcfg &&& 0x80 ≠ 0 then 0xff <<< (8-bits.toUInt32)
    else 0xff >>> (8-bits.toUInt32)
  let stop : UInt32 := if regPktaddrcfg &&& 0x80 ≠ 0 then 0x80 >>> bits.toUInt32
    else 0x01 <<< bits.toUInt32
  (byte &&& mask.toUInt8) ||| stop.toUInt8

def syncwordChunk (config : Ax5043Config) : List UInt8 :=
  let i : UInt8 := if config.axradioFramingSynclen &&& 0x07 ≠ 0 then 0x04 else 0
  let lenByte := (config.axradioFramingSynclen+7) >>> 3
  [(0x01 : UInt8) ||| ((lenByte+1) <<< 5),config.axradioFramingSyncflags ||| i] ++
    config.axradioFramingSyncword.take lenByte.toNat

def shortpreamble (config : Ax5043Config) (ubFreeCnt framing : UInt8) (dev : TxDevice) : TxPass :=
  if dev.axradioTxbufferCnt = 0 ∧ ubFreeCnt < 15 then dev.fifocommit
  else
    let dev := if dev.axradioTxbufferCnt = 0 ∧ config.axradioPhyPreambleAppendbits ≠ 0 then
        dev.spiWrite [0x41,0x1c,stopBit config.axradioPhyPreambleAppendpattern
          config.axradioPhyPreambleAppendbits]
      else dev
    if dev.axradioTxbufferCnt = 0 ∧ framing &&& 0x0e = 0x06 ∧ config.axradioFramingSynclen ≠ 0 then
      .again { dev.spiWrite (syncwordChunk config) with ubRfState := .txPacket }
    else if ubFreeCnt < 4 then dev.fifocommit
    else
      let freeCnt := if dev.axradioTxbufferCnt < 255*8 then (dev.axradioTxbufferCnt >>> 3).toUInt8
        else 255
      if freeCnt ≠ 0 then
        .again { dev.spiWrite [0x62,config.axradioPhyPreambleFlags,freeCnt,
            config.axradioPhyPreambleByte] with
          axradioTxbufferCnt := dev.axradioTxbufferCnt-freeCnt.toUInt32 <<< 3 }
      else
        .again { dev.spiWrite [0x41,0x1c,stopBit config.axradioPhyPreambleByte
            dev.axradioTxbufferCnt.toUInt8] with axradioTxbufferCnt := 0 }

def transmitStep (config : Ax5043Config) (r : FifoReads) (dev : TxDevice) : TxPass :=
  let ubFreeCnt := if r.fifofree1 ≠ 0 then 0xff else r.fifofree0
  match dev.ubRfState with
  | .txLongpreamble =>
    if dev.axradioTxbufferCnt = 0 then
      shortpreamble config ubFreeCnt r.framing { dev with
        ubRfState := .txShortpreamble, axradioTxbufferCnt := config.axradioPhyPreambleLen.toUInt32 }
    else if ubFreeCnt < 4 then dev.fifocommit
    else
      let freeCnt := if dev.axradioTxbufferCnt < 7 then dev.axradioTxbufferCnt else 7
      .again { dev.spiWrite [0x62,0x38,freeCnt.toUInt8 <<< 5,0x55] with
        axradioTxbufferCnt := dev.axradioTxbufferCnt-freeCnt }
  | .txShortpreamble => shortpreamble config ubFreeCnt r.framing dev
  | .txPacket =>
    if dev.txLen < 11 then dev.fifocommit
    else (dev.spiWrite ([0xe1,1+dev.txLen,3] ++ slice dev.txBuff 0 dev.txLen.toNat)).pktend
  | _ => .done dev

/-- The loop with the readings of its iterations; where they end it is still going round. -/
def transmitData (config : Ax5043Config) : List FifoReads → TxDevice → TxDevice
  | [], dev => dev
  | r :: rs, dev =>
    match transmitStep config r dev with
    | .again dev => transmitData config rs dev
    | .done dev => dev

def normalSend (buf : Nat → UInt8) (length : UInt8) (dev : TxDevice) : TxDevice :=
  { dev with
    axradioTxbufferCnt := 0
    txLen := length+1
    txBuff n := if n = 0 then length+1 else if n ≤ length.toNat then buf (n-1) else dev.txBuff n
    ubRfState := .txXtalwait }

/-- The chip is reset, which empties its FIFO. -/
def rfRestart (dev : TxDevice) : TxDevice := { dev with ubRfState := .rx, fifo := [] }

def radioSend (buf : Nat → UInt8) (dev : TxDevice) : TxDevice :=
  { dev.normalSend buf 32 with sendTimer := true }

def gatewayDataSend (buf : Nat → UInt8) (dev : TxDevice) : TxDevice :=
  { dev.normalSend buf 41 with sendTimer := true }

/-- One round of `rf_433_task_callback`. The FIFO is cleared when the receiver goes on and
when a transmission begins. -/
def rf433Task (config : Ax5043Config) (reads : List FifoReads) (radiostate : UInt8)
    (dev : TxDevice) : TxDevice :=
  match dev.ubRfState with
  | .rx => { dev with ubRfState := .rx, fifo := [] }
  | .waitXtal => { dev with ubRfState := .xtalReady }
  | .pllRanging => { dev with ubRfState := .pllRangingDone }
  | .pllSettling => { dev with ubRfState := .pllSettled }
  | .txXtalwait =>
    let dev := { dev with ubRfState := .txLongpreamble, fifo := [] }
    let dev := if regModulation &&& 0x0f = 9 then dev.spiWrite [0xe1,2,0x01,0x11] else dev
    dev.transmitData config reads
  | .txLongpreamble | .txShortpreamble | .txPacket => dev.transmitData config reads
  | .txWaitdone =>
    let dev := { dev with sendTimer := false }
    if radiostate ≠ 0 then dev else rfRestart dev
  | _ => dev

def rf433SendTimer (dev : TxDevice) : TxDevice :=
  if dev.sendTimer then
    let dev := { dev with sendTimer := false }
    if dev.ubRfState ≠ .rx then rfRestart dev else dev
  else dev

end TxDevice

inductive TxEvent where
  | radioSend (buf : Nat → UInt8)
  | gatewayDataSend (buf : Nat → UInt8)
  | irq (reads : List FifoReads) (radiostate : UInt8)
  | sendTimeout

def txStep (dev : TxDevice) : TxEvent → TxDevice
  | .radioSend buf => dev.radioSend buf
  | .gatewayDataSend buf => dev.gatewayDataSend buf
  | .irq reads radiostate => dev.rf433Task rf433ConfigInit reads radiostate
  | .sendTimeout => dev.rf433SendTimer

section Erase
variable (r : FifoReads) (dev : TxDevice)

def TxEvent.erase : TxEvent → RfEvent
  | .radioSend _ => .radioSend
  | .gatewayDataSend _ => .gatewayDataSend
  | .irq reads radiostate => .irq reads radiostate
  | .sendTimeout => .sendTimeout

def TxPass.erase : TxPass → TxStep
  | .again dev => .again dev.toRf433
  | .done dev => .done dev.toRf433

theorem shortpreamble_erase (ubFreeCnt framing : UInt8) :
    (dev.shortpreamble rf433ConfigInit ubFreeCnt framing).erase =
      shortpreamble ubFreeCnt framing dev.toRf433 := by
  have happend : ¬ rf433ConfigInit.axradioPhyPreambleAppendbits ≠ 0 := by decide
  have hsynclen : rf433ConfigInit.axradioFramingSynclen = axradioFramingSynclen := rfl
  unfold TxDevice.shortpreamble shortpreamble
  simp only [happend,and_false,if_false,hsynclen]
  repeat' split
  all_goals rfl

theorem transmitStep_erase :
    (dev.transmitStep rf433ConfigInit r).erase = transmitStep r dev.toRf433 := by
  obtain ⟨⟨state,cnt,txLen,timer⟩,txBuff,fifo⟩ := dev
  unfold TxDevice.transmitStep transmitStep
  dsimp only
  generalize (if r.fifofree1 ≠ 0 then 0xff else r.fifofree0) = ubFreeCnt
  cases state with
  | txLongpreamble =>
    dsimp only
    split
    · exact shortpreamble_erase _ _ _
    · split <;> rfl
  | txShortpreamble => exact shortpreamble_erase _ _ _
  | txPacket =>
    dsimp only
    split <;> rfl
  | _ => rfl

theorem transmitData_erase (reads : List FifoReads) :
    (dev.transmitData rf433ConfigInit reads).toRf433 = transmitData reads dev.toRf433 := by
  induction reads generalizing dev with
  | nil => rfl
  | cons r rs ih =>
    have hstep := transmitStep_erase r dev
    rw [TxDevice.transmitData,transmitData,← hstep]
    cases dev.transmitStep rf433ConfigInit r with
    | again dev' => exact ih dev'
    | done dev' => rfl

/-- The transmitter with its data runs through the states of the transceiver. -/
theorem txStep_erase (e : TxEvent) : (txStep dev e).toRf433 = rfStep dev.toRf433 e.erase := by
  cases e with
  | radioSend buf => rfl
  | gatewayDataSend buf => rfl
  | irq reads radiostate =>
    change (dev.rf433Task rf433ConfigInit reads radiostate).toRf433
      = rf433Task reads radiostate dev.toRf433
    obtain ⟨⟨state,cnt,txLen,timer⟩,txBuff,fifo⟩ := dev
    cases state with
    | txXtalwait => exact transmitData_erase _ reads
    | txLongpreamble => exact transmitData_erase _ reads
    | txShortpreamble => exact transmitData_erase _ reads
    | txPacket => exact transmitData_erase _ reads
    | txWaitdone =>
      unfold TxDevice.rf433Task rf433Task
      dsimp only
      split <;> rfl
    | _ => rfl
  | sendTimeout =>
    change dev.rf433SendTimer.toRf433 = rf433SendTimer dev.toRf433
    unfold TxDevice.rf433SendTimer rf433SendTimer
    split
    · dsimp only
      split <;> rfl
    · rfl

theorem txRun_erase (es : List TxEvent) :
    (es.foldl txStep dev).toRf433 = (es.map TxEvent.erase).foldl rfStep dev.toRf433 := by
  induction es generalizing dev with
  | nil => rfl
  | cons e es ih =>
    rw [List.foldl_cons,List.map_cons,List.foldl_cons,ih,txStep_erase]

end Erase

/-- The states in which an interrupt goes on with a transmission. -/
def TrxState.resumable : TrxState → Bool
  | .txLongpreamble | .txShortpreamble | .txPacket => true
  | _ => false

/-- 32 bits of preamble as four repetitions of one byte. -/
def preambleChunk : List UInt8 := [0x62,0x38,4,0x55]

def syncChunk : List UInt8 := [0xa1,0x38,0xcc,0xaa,0xcc,0xaa]

def TxDevice.dataChunk (dev : TxDevice) : List UInt8 :=
  [0xe1,1+dev.txLen,3] ++ slice dev.txBuff 0 dev.txLen.toNat

def TxDevice.frame (dev : TxDevice) : List UInt8 := preambleChunk ++ syncChunk ++ dev.dataChunk

/-- A transmission that is reported as submitted was written completely. -/
def Submitted (dev : TxDevice) : Prop := dev.ubRfState = .txWaitdone → dev.fifo = dev.frame

def FifoReads.free (r : FifoReads) : UInt8 := if r.fifofree1 ≠ 0 then 0xff else r.fifofree0

/-- The free bytes without which an iteration cannot write what comes next: what the code
asks for before the preamble and the sync word, and the bytes of the packet, before which it
does not ask. -/
def TxDevice.needs (dev : TxDevice) : Nat :=
  match dev.ubRfState with
  | .txLongpreamble => 4
  | .txShortpreamble => if dev.axradioTxbufferCnt = 0 then 15 else 4
  | .txPacket => 3+dev.txLen.toNat
  | _ => 0

/-- In some iteration of `TransmitData` the FIFO is too full. -/
def TxDevice.FindsFull (config : Ax5043Config) : List FifoReads → TxDevice → Prop
  | [], _ => False
  | r :: rs, dev => r.free.toNat < dev.needs ∨
    match dev.transmitStep config r with
    | .again dev => FindsFull config rs dev
    | .done _ => False

/-- Where the interrupt goes on with a transmission and `TransmitData` finds the FIFO too full,
it leaves a state in which the next interrupt goes on. -/
def Resumed (dev : TxDevice) : TxEvent → Prop
  | .irq reads radiostate =>
    (match dev.ubRfState with
      | .txXtalwait =>
        { dev with ubRfState := .txLongpreamble, fifo := [] }.FindsFull rf433ConfigInit reads
      | .txLongpreamble | .txShortpreamble | .txPacket => dev.FindsFull rf433ConfigInit reads
      | _ => False) →
    (txStep dev (.irq reads radiostate)).ubRfState.resumable = true
  | _ => True

/-- The readings leave room for the preamble, for the sync word and for the packet, where they
are still to be written. -/
def Roomy (txLen : UInt8) : TrxState → List FifoReads → Prop
  | .txXtalwait, r :: rs | .txLongpreamble, r :: rs => 4 ≤ r.free ∧ Roomy txLen .txShortpreamble rs
  | .txShortpreamble, r :: rs => 15 ≤ r.free ∧ Roomy txLen .txPacket rs
  | .txPacket, r :: _ => 3+txLen.toNat ≤ r.free.toNat
  | _, _ => True

def ReadsRoomy (dev : TxDevice) : TxEvent → Prop
  | .irq reads _ => Roomy dev.txLen dev.ubRfState reads
  | _ => True

/-- The chip answers with the framing mode it was given. -/
def TxEvent.Framed : TxEvent → Prop
  | .irq reads _ => ∀ r ∈ reads, r.framing &&& 0x0e = 0x06
  | _ => True

/-- How much of the frame is written in each state of a transmission. -/
def PartWritten (dev : TxDevice) : Prop :=
  match dev.ubRfState with
  | .txXtalwait => 11 ≤ dev.txLen ∧ dev.axradioTxbufferCnt = 0
  | .txLongpreamble => 11 ≤ dev.txLen ∧ dev.axradioTxbufferCnt = 0 ∧ dev.fifo = []
  | .txShortpreamble => 11 ≤ dev.txLen ∧ dev.axradioTxbufferCnt = 0 ∧ dev.fifo = preambleChunk
  | .txPacket => 11 ≤ dev.txLen ∧ dev.fifo = preambleChunk ++ syncChunk
  | _ => True

section Pass
variable {dev : TxDevice} {r : FifoReads}

theorem transmitStep_packet (hs : dev.ubRfState = .txPacket) (hlen : 11 ≤ dev.txLen) :
    dev.transmitStep rf433ConfigInit r =
      .done { dev.spiWrite dev.dataChunk with ubRfState := .txWaitdone } := by
  simp only [TxDevice.transmitStep,hs,if_neg (UInt8.not_lt.mpr hlen)]
  rfl

theorem transmitStep_sync (hs : dev.ubRfState = .txShortpreamble) (hcnt : dev.axradioTxbufferCnt = 0)
    (hframing : r.framing &&& 0x0e = 0x06) :
    dev.transmitStep rf433ConfigInit r =
      if r.free < 15 then .done { dev with ubRfState := .txWaitdone }
      else .again { dev.spiWrite syncChunk with ubRfState := .txPacket } := by
  have happend : ¬ rf433ConfigInit.axradioPhyPreambleAppendbits ≠ 0 := by decide
  have hsynclen : rf433ConfigInit.axradioFramingSynclen ≠ 0 := by decide
  have hchunk : TxDevice.syncwordChunk rf433ConfigInit = syncChunk := by decide
  have hfree : (if r.fifofree1 ≠ 0 then 0xff else r.fifofree0) = r.free := rfl
  obtain ⟨⟨state,cnt,txLen,timer⟩,txBuff,fifo⟩ := dev
  obtain rfl : state = .txShortpreamble := hs
  obtain rfl : cnt = 0 := hcnt
  simp only [TxDevice.transmitStep,TxDevice.shortpreamble,hfree,true_and,happend,and_false,
    if_false,hframing,hsynclen,and_self,if_true,hchunk,ne_eq,not_false_eq_true]
  rfl

theorem transmitStep_preamble (hs : dev.ubRfState = .txLongpreamble)
    (hcnt : dev.axradioTxbufferCnt = 0) :
    dev.transmitStep rf433ConfigInit r =
      if r.free < 4 then .done { dev with ubRfState := .txWaitdone, axradioTxbufferCnt := 32 }
      else .again { dev.spiWrite preambleChunk with ubRfState := .txShortpreamble } := by
  have hfree : (if r.fifofree1 ≠ 0 then 0xff else r.fifofree0) = r.free := rfl
  have hlen : rf433ConfigInit.axradioPhyPreambleLen.toUInt32 = 32 := by decide
  have hnot : ¬ (32 : UInt32) = 0 := by decide
  obtain ⟨⟨state,cnt,txLen,timer⟩,txBuff,fifo⟩ := dev
  obtain rfl : state = .txLongpreamble := hs
  obtain rfl : cnt = 0 := hcnt
  simp only [TxDevice.transmitStep,TxDevice.shortpreamble,hfree,if_true,hlen,hnot,false_and,
    if_false]
  rfl

/-- `TransmitData` leaves a known part of the frame written; it finds the FIFO too full where
the readings leave no room, and then the state it leaves is the last one; where they leave room
what it reports as submitted is written completely. -/
structure Delivers (reads : List FifoReads) (dev : TxDevice) : Prop where
  written : PartWritten (dev.transmitData rf433ConfigInit reads)
  full : dev.FindsFull rf433ConfigInit reads ↔ ¬ Roomy dev.txLen dev.ubRfState reads
  ends : ¬ Roomy dev.txLen dev.ubRfState reads →
    (dev.transmitData rf433ConfigInit reads).ubRfState = .txWaitdone
  submitted : Roomy dev.txLen dev.ubRfState reads →
    Submitted (dev.transmitData rf433ConfigInit reads)

theorem delivers_nil (hs : dev.ubRfState.resumable = true) (hw : PartWritten dev) :
    Delivers [] dev := by
  have hroomy : Roomy dev.txLen dev.ubRfState [] := by
    cases dev.ubRfState <;> trivial
  refine ⟨hw,iff_of_false (fun h => h) (fun h => h hroomy),fun h => absurd hroomy h,fun _ h => ?_⟩
  have hdone : dev.ubRfState = .txWaitdone := h
  rw [hdone] at hs
  cases hs

theorem transmitData_packet (hs : dev.ubRfState = .txPacket) (hw : PartWritten dev)
    (reads : List FifoReads) : Delivers reads dev := by
  have hwritten := hw
  simp only [PartWritten,hs] at hwritten
  cases reads with
  | nil => exact delivers_nil (by rw [hs]; rfl) hw
  | cons r rs =>
    have hpass := transmitStep_packet (r := r) hs hwritten.1
    refine ⟨?_,?_,?_,?_⟩
    · simp only [TxDevice.transmitData,hpass]
      trivial
    · simp only [TxDevice.FindsFull,TxDevice.needs,Roomy,hs,hpass,or_false,Nat.not_le]
    · intro _
      simp only [TxDevice.transmitData,hpass]
    · intro _ _
      simp only [TxDevice.transmitData,hpass]
      change dev.fifo ++ dev.dataChunk = dev.frame
      rw [hwritten.2,TxDevice.frame]

/-- An iteration that asks for `need` free bytes: without them the loop ends there, with them it
goes on from `next`. -/
theorem delivers_pass {rs : List FifoReads} {need : UInt8} {stopped next : TxDevice}
    (hpass : dev.transmitStep rf433ConfigInit r = if r.free < need then .done stopped else .again next)
    (hstopped : stopped.ubRfState = .txWaitdone) (hneeds : dev.needs = need.toNat)
    (hroomy : Roomy dev.txLen dev.ubRfState (r :: rs) ↔ need ≤ r.free ∧ Roomy next.txLen next.ubRfState rs)
    (hnext : Delivers rs next) : Delivers (r :: rs) dev := by
  by_cases hfree : r.free < need
  · have hnot : ¬ Roomy dev.txLen dev.ubRfState (r :: rs) := fun h =>
      UInt8.not_le.mpr hfree (hroomy.mp h).1
    have hfull : r.free.toNat < dev.needs := by
      rw [hneeds]
      exact UInt8.lt_iff_toNat_lt.mp hfree
    rw [if_pos hfree] at hpass
    refine ⟨?_,iff_of_true (.inl hfull) hnot,fun _ => ?_,fun h => absurd h hnot⟩
    · simp only [TxDevice.transmitData,hpass,PartWritten,hstopped]
    · simp only [TxDevice.transmitData,hpass,hstopped]
  · have hroom : ¬ r.free.toNat < dev.needs := by
      rw [hneeds]
      exact fun h => hfree (UInt8.lt_iff_toNat_lt.mpr h)
    have hrest : Roomy dev.txLen dev.ubRfState (r :: rs) ↔ Roomy next.txLen next.ubRfState rs :=
      hroomy.trans (and_iff_right (UInt8.not_lt.mp hfree))
    rw [if_neg hfree] at hpass
    refine ⟨?_,?_,?_,?_⟩
    · simp only [TxDevice.transmitData,hpass]
      exact hnext.written
    · simp only [TxDevice.FindsFull,hpass,hroom,false_or,hrest]
      exact hnext.full
    · simp only [TxDevice.transmitData,hpass,hrest]
      exact hnext.ends
    · simp only [TxDevice.transmitData,hpass,hrest]
      exact hnext.submitted

theorem transmitData_short (hs : dev.ubRfState = .txShortpreamble) (hw : PartWritten dev)
    {reads : List FifoReads} (hf : ∀ r ∈ reads, r.framing &&& 0x0e = 0x06) :
    Delivers reads dev := by
  have hwritten := hw
  simp only [PartWritten,hs] at hwritten
  obtain ⟨hlen,hcnt,hfifo⟩ := hwritten
  cases reads with
  | nil => exact delivers_nil (by rw [hs]; rfl) hw
  | cons r rs =>
    have hsynced : PartWritten { dev.spiWrite syncChunk with ubRfState := .txPacket } :=
      ⟨hlen,by simp [TxDevice.spiWrite,hfifo]⟩
    refine delivers_pass (transmitStep_sync hs hcnt (hf r List.mem_cons_self)) rfl ?_ ?_
      (transmitData_packet rfl hsynced rs)
    · simp only [TxDevice.needs,hs,hcnt,if_true]
      rfl
    · simp only [Roomy,hs]
      rfl

theorem transmitData_long (hs : dev.ubRfState = .txLongpreamble) (hw : PartWritten dev)
    {reads : List FifoReads} (hf : ∀ r ∈ reads, r.framing &&& 0x0e = 0x06) :
    Delivers reads dev := by
  have hwritten := hw
  simp only [PartWritten,hs] at hwritten
  obtain ⟨hlen,hcnt,hfifo⟩ := hwritten
  cases reads with
  | nil => exact delivers_nil (by rw [hs]; rfl) hw
  | cons r rs =>
    have hsent : PartWritten { dev.spiWrite preambleChunk with ubRfState := .txShortpreamble } :=
      ⟨hlen,hcnt,by simp [TxDevice.spiWrite,hfifo]⟩
    refine delivers_pass (transmitStep_preamble hs hcnt) rfl ?_ ?_
      (transmitData_short rfl hsent fun r hr => hf r (List.mem_cons_of_mem _ hr))
    · simp only [TxDevice.needs,hs]
      rfl
    · simp only [Roomy,hs]
      rfl

/-- An interrupt that goes on with a transmission leaves a state to go on from exactly where
the FIFO is not too full. -/
theorem Delivers.resumed {reads : List FifoReads} (h : Delivers reads dev) :
    (dev.FindsFull rf433ConfigInit reads →
      (dev.transmitData rf433ConfigInit reads).ubRfState.resumable = true) ↔
    Roomy dev.txLen dev.ubRfState reads := by
  by_cases hroomy : Roomy dev.txLen dev.ubRfState reads
  · exact iff_of_true (fun hfull => absurd hroomy (h.full.mp hfull)) hroomy
  · refine iff_of_false (fun hres => ?_) hroomy
    have hgoes := hres (h.full.mpr hroomy)
    rw [h.ends hroomy] at hgoes
    cases hgoes

end Pass

/-- One event: the part of the frame written is known, too full FIFOs are resumed exactly where
the readings leave room, and there a complete transmission stays complete. -/
structure EventDelivers (dev : TxDevice) (e : TxEvent) : Prop where
  written : PartWritten (txStep dev e)
  resumed : Resumed dev e ↔ ReadsRoomy dev e
  submitted : Submitted dev → ReadsRoomy dev e → Submitted (txStep dev e)

theorem rf433Task_delivers {dev : TxDevice} (hw : PartWritten dev) {reads : List FifoReads}
    (hf : ∀ r ∈ reads, r.framing &&& 0x0e = 0x06) (radiostate : UInt8) :
    EventDelivers dev (.irq reads radiostate) := by
  obtain ⟨⟨state,cnt,txLen,timer⟩,txBuff,fifo⟩ := dev
  cases state with
  | txXtalwait =>
    have hlong : PartWritten ⟨⟨.txLongpreamble,cnt,txLen,timer⟩,txBuff,[]⟩ := ⟨hw.1,hw.2,rfl⟩
    have h := transmitData_long rfl hlong hf
    have hroomy : Roomy txLen .txXtalwait reads ↔ Roomy txLen .txLongpreamble reads := by
      cases reads <;> exact Iff.rfl
    exact ⟨h.written,h.resumed.trans hroomy.symm,fun _ hr => h.submitted (hroomy.mp hr)⟩
  | txLongpreamble =>
    have h := transmitData_long rfl hw hf
    exact ⟨h.written,h.resumed,fun _ => h.submitted⟩
  | txShortpreamble =>
    have h := transmitData_short rfl hw hf
    exact ⟨h.written,h.resumed,fun _ => h.submitted⟩
  | txPacket =>
    have h := transmitData_packet rfl hw reads
    exact ⟨h.written,h.resumed,fun _ => h.submitted⟩
  | txWaitdone =>
    have hroomy : Roomy txLen .txWaitdone reads := by cases reads <;> trivial
    refine ⟨?_,iff_of_true False.elim hroomy,fun hsub _ => ?_⟩
    · simp only [txStep,TxDevice.rf433Task]
      split <;> trivial
    · simp only [txStep,TxDevice.rf433Task]
      split
      · exact hsub
      · exact fun h => absurd h (by simp [TxDevice.rfRestart])
  | _ =>
    refine ⟨trivial,iff_of_true False.elim ?_,fun _ _ h => absurd h ?_⟩
    · cases reads <;> trivial
    · simp [txStep,TxDevice.rf433Task]

theorem normalSend_delivers (dev : TxDevice) (buf : Nat → UInt8) (length : UInt8) (timer : Bool)
    (hlen : 11 ≤ length+1) :
    PartWritten { dev.normalSend buf length with sendTimer := timer } ∧
      Submitted { dev.normalSend buf length with sendTimer := timer } :=
  ⟨⟨hlen,rfl⟩,fun h => absurd h (by simp [TxDevice.normalSend])⟩

theorem txStep_delivers {dev : TxDevice} (hw : PartWritten dev) {e : TxEvent} (hf : e.Framed) :
    EventDelivers dev e := by
  cases e with
  | radioSend buf =>
    have h := normalSend_delivers dev buf 32 true (by decide)
    exact ⟨h.1,Iff.rfl,fun _ _ => h.2⟩
  | gatewayDataSend buf =>
    have h := normalSend_delivers dev buf 41 true (by decide)
    exact ⟨h.1,Iff.rfl,fun _ _ => h.2⟩
  | irq reads radiostate => exact rf433Task_delivers hw hf radiostate
  | sendTimeout =>
    have htimer : PartWritten dev.rf433SendTimer ∧ (Submitted dev → Submitted dev.rf433SendTimer) := by
      unfold TxDevice.rf433SendTimer
      split
      · dsimp only
        split
        · exact ⟨trivial,fun _ h => absurd h (by simp [TxDevice.rfRestart])⟩
        · exact ⟨hw,id⟩
      · exact ⟨hw,id⟩
    exact ⟨htimer.1,Iff.rfl,fun hsub _ => htimer.2 hsub⟩

/-- In every state of a run a submitted transmission was written completely, and every
interrupt that found the FIFO too full left a state to go on from, exactly when no reading of
the chip is too low for what is written next. -/
theorem transmission_complete_iff (dev : TxDevice) (hrx : dev.ubRfState = .rx) (es : List TxEvent)
    (hf : ∀ e ∈ es, e.Framed) :
    AllCuts txStep Submitted dev es ∧ Along txStep Resumed dev es ↔
      Along txStep ReadsRoomy dev es := by
  have hwritten : PartWritten dev := by simp only [PartWritten,hrx]
  have hsubmitted : Submitted dev := fun h => absurd (hrx.symm.trans h) (by decide)
  exact allCuts_and_along_iff_within (fun _ _ hw hd => (txStep_delivers hw hd).written)
    (fun _ _ hw _ hd => (txStep_delivers hw hd).resumed)
    (fun _ _ hw hsub hd => (txStep_delivers hw hd).submitted hsub) hwritten hsubmitted
    (along_of_mem hf)

def idleDevice : TxDevice := ⟨⟨.rx,0,0,false⟩,fun _ => 0,[]⟩

theorem framing_configured : (0x26 : UInt8) &&& 0x0e = 0x06 := by decide

/-- A message is sent with an empty FIFO, and all of it is written. -/
theorem transmission_complete_sent :
    AllCuts txStep Submitted idleDevice
      [.radioSend fun n => UInt8.ofNat n,.irq (List.replicate 3 ⟨0,1,0x26⟩) 0] := by
  have hiff := transmission_complete_iff idleDevice rfl
    [.radioSend fun n => UInt8.ofNat n,.irq (List.replicate 3 ⟨0,1,0x26⟩) 0]
    (by simp [TxEvent.Framed,framing_configured])
  refine (hiff.mpr ⟨trivial,⟨?_,?_,?_⟩,trivial⟩).1
  · decide
  · change (15 : UInt8) ≤ 0xff
    decide
  · change 3+33 ≤ 255
    decide

/-- The first reading leaves room for three bytes: nothing is written, and the transmission
is reported as submitted. -/
theorem transmission_counterexample :
    ¬ ∀ (dev : TxDevice) (es : List TxEvent), dev.ubRfState = .rx → (∀ e ∈ es, e.Framed) →
      AllCuts txStep Submitted dev es ∧ Along txStep Resumed dev es := by
  intro hall
  have hsub := (hall idleDevice [.radioSend fun _ => 0,.irq [⟨3,0,0x26⟩] 0] rfl
    (by simp [TxEvent.Framed,framing_configured])).1 _ (List.prefix_refl _)
  exact absurd (hsub rfl) (by decide)

end GatewayF411
