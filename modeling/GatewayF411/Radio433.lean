import GatewayF411.Lib.Runs

/-!
The transceiver of `Radio_433.c`: the states of `ubRFState`, the transmitter of
`Radio_Common.c` and the timer that is to bring a hanging transmission back to receive.
Whatever the chip answers is an input of the step; the data written to it is left out.
-/

set_option autoImplicit false

namespace GatewayF411
open Runs

inductive TrxState where
  | off | rx | rxwor | waitXtal | xtalReady | pllRanging | pllRangingDone | pllSettling | pllSettled
  | txXtalwait | txLongpreamble | txShortpreamble | txPacket | txWaitdone | txcwXtalwait
  | txstreamXtalwait | txstream
  deriving DecidableEq, Repr

/-- The part of `struct ax5043` that the transmitter uses, and whether `rf_433_send_timer` runs. -/
structure Rf433 where
  ubRfState : TrxState
  axradioTxbufferCnt : UInt32
  txLen : UInt8
  sendTimer : Bool
  deriving DecidableEq, Repr

def axradioPhyPreambleLen : UInt32 := 32
def axradioFramingSynclen : UInt8 := 32

/-- The registers that one iteration of `TransmitData` reads. -/
structure FifoReads where
  fifofree0 : UInt8
  fifofree1 : UInt8
  framing : UInt8
  deriving DecidableEq, Repr

/-- How an iteration of `TransmitData` ends: with `break`, or at `return`, `fifocommit` or
`pktend`, which leave the loop. -/
inductive TxStep where
  | again (dev : Rf433)
  | done (dev : Rf433)
  deriving DecidableEq, Repr

def TxStep.dev : TxStep → Rf433
  | .again dev => dev
  | .done dev => dev

def pktend (dev : Rf433) : TxStep := .done { dev with ubRfState := .txWaitdone }

/-- The label `fifocommit` falls through to `pktend`. -/
def fifocommit (dev : Rf433) : TxStep := pktend dev

def shortpreamble (ubFreeCnt : UInt8) (framing : UInt8) (dev : Rf433) : TxStep :=
  if dev.axradioTxbufferCnt = 0 ∧ ubFreeCnt < 15 then fifocommit dev
  else if dev.axradioTxbufferCnt = 0 ∧ framing &&& 0x0e = 0x06 ∧ axradioFramingSynclen ≠ 0 then
    .again { dev with ubRfState := .txPacket }
  else if ubFreeCnt < 4 then fifocommit dev
  else
    let freeCnt := if dev.axradioTxbufferCnt < 255*8 then (dev.axradioTxbufferCnt >>> 3).toUInt8
      else 255
    if freeCnt ≠ 0 then
      .again { dev with axradioTxbufferCnt := dev.axradioTxbufferCnt-freeCnt.toUInt32 <<< 3 }
    else .again { dev with axradioTxbufferCnt := 0 }

def transmitStep (r : FifoReads) (dev : Rf433) : TxStep :=
  let ubFreeCnt := if r.fifofree1 ≠ 0 then 0xff else r.fifofree0
  match dev.ubRfState with
  | .txLongpreamble =>
    if dev.axradioTxbufferCnt = 0 then
      shortpreamble ubFreeCnt r.framing
        { dev with ubRfState := .txShortpreamble, axradioTxbufferCnt := axradioPhyPreambleLen }
    else if ubFreeCnt < 4 then fifocommit dev
    else
      let freeCnt := if dev.axradioTxbufferCnt < 7 then dev.axradioTxbufferCnt else 7
      .again { dev with axradioTxbufferCnt := dev.axradioTxbufferCnt-freeCnt }
  | .txShortpreamble => shortpreamble ubFreeCnt r.framing dev
  | .txPacket => if dev.txLen < 11 then fifocommit dev else pktend dev
  | _ => .done dev

/-- The loop with the readings of its iterations; where they end it is still going round. -/
def transmitData : List FifoReads → Rf433 → Rf433
  | [], dev => dev
  | r :: rs, dev =>
    match transmitStep r dev with
    | .again dev => transmitData rs dev
    | .done dev => dev

/-- `Normal_send` and `transmit_packet_task` for a text of the given length. -/
def normalSend (length : UInt8) (dev : Rf433) : Rf433 :=
  { dev with axradioTxbufferCnt := 0, txLen := length+1, ubRfState := .txXtalwait }

/-- `rf_restart` passes through `trxstate_off`. -/
def rfRestart (dev : Rf433) : Rf433 :=
  let dev := { dev with ubRfState := .off }
  { dev with ubRfState := .rx }

def radioSend (dev : Rf433) : Rf433 := { normalSend 32 dev with sendTimer := true }

def gatewayDataSend (dev : Rf433) : Rf433 := { normalSend 41 dev with sendTimer := true }

/-- One round of `rf_433_task_callback`. `ReceiveData` leaves the state alone and
`AX5043Receiver_Continuous` sets it to receive. -/
def rf433Task (reads : List FifoReads) (radiostate : UInt8) (dev : Rf433) : Rf433 :=
  match dev.ubRfState with
  | .rx => { dev with ubRfState := .rx }
  | .waitXtal => { dev with ubRfState := .xtalReady }
  | .pllRanging => { dev with ubRfState := .pllRangingDone }
  | .pllSettling => { dev with ubRfState := .pllSettled }
  | .txXtalwait => transmitData reads { dev with ubRfState := .txLongpreamble }
  | .txLongpreamble | .txShortpreamble | .txPacket => transmitData reads dev
  | .txWaitdone =>
    let dev := { dev with sendTimer := false }
    if radiostate ≠ 0 then dev else rfRestart dev
  | _ => dev

/-- The expiry of the one-shot timer, which can come only while it runs. -/
def rf433SendTimer (dev : Rf433) : Rf433 :=
  if dev.sendTimer then
    let dev := { dev with sendTimer := false }
    if dev.ubRfState ≠ .rx then rfRestart dev else dev
  else dev

inductive RfEvent where
  | radioSend
  | gatewayDataSend
  | irq (reads : List FifoReads) (radiostate : UInt8)
  | sendTimeout
  deriving DecidableEq, Repr

def rfStep (dev : Rf433) : RfEvent → Rf433
  | .radioSend => radioSend dev
  | .gatewayDataSend => gatewayDataSend dev
  | .irq reads radiostate => rf433Task reads radiostate dev
  | .sendTimeout => rf433SendTimer dev

def Rf433.started (cnt : UInt32) (txLen : UInt8) : Rf433 := ⟨.rx,cnt,txLen,false⟩

def Guarded (dev : Rf433) : Prop := dev.ubRfState ≠ .rx → dev.sendTimer = true

/-- An interrupt that finds the transmission finished reads an idle radio. -/
def ReadsIdle (dev : Rf433) : RfEvent → Prop
  | .irq _ radiostate => dev.ubRfState = .txWaitdone → radiostate = 0
  | _ => True

theorem shortpreamble_timer (n m : UInt8) (dev : Rf433) :
    (shortpreamble n m dev).dev.sendTimer = dev.sendTimer := by
  unfold shortpreamble
  dsimp only
  repeat' split
  all_goals rfl

theorem transmitStep_timer (r : FifoReads) (dev : Rf433) :
    (transmitStep r dev).dev.sendTimer = dev.sendTimer := by
  unfold transmitStep
  cases dev.ubRfState <;> dsimp only <;> repeat' split
  all_goals first | rfl | exact shortpreamble_timer _ _ _

theorem transmitData_timer (reads : List FifoReads) (dev : Rf433) :
    (transmitData reads dev).sendTimer = dev.sendTimer := by
  induction reads generalizing dev with
  | nil => rfl
  | cons r rs ih =>
    have htimer := transmitStep_timer r dev
    cases hstep : transmitStep r dev with
    | again dev' =>
      rw [hstep] at htimer
      simp only [transmitData,hstep,ih]
      exact htimer
    | done dev' =>
      rw [hstep] at htimer
      simp only [transmitData,hstep]
      exact htimer

theorem rf433Task_guarded {dev : Rf433} (h : Guarded dev) (reads : List FifoReads)
    (radiostate : UInt8) : Guarded (rf433Task reads radiostate dev) ↔
      (dev.ubRfState = .txWaitdone → radiostate = 0) := by
  unfold Guarded at h
  cases hs : dev.ubRfState with
  | txWaitdone =>
    by_cases hidle : radiostate = 0
    · simp [rf433Task,hs,hidle,Guarded,rfRestart]
    · simp [rf433Task,hs,hidle,Guarded]
  | _ => simp_all [rf433Task,Guarded,transmitData_timer]

theorem rfStep_guarded (dev : Rf433) (e : RfEvent) (h : Guarded dev) :
    Guarded (rfStep dev e) ↔ ReadsIdle dev e := by
  cases e with
  | radioSend => simp [rfStep,radioSend,Guarded,ReadsIdle]
  | gatewayDataSend => simp [rfStep,gatewayDataSend,Guarded,ReadsIdle]
  | irq reads radiostate => exact rf433Task_guarded h reads radiostate
  | sendTimeout =>
    unfold Guarded at h
    by_cases hrun : dev.sendTimer = true
    · by_cases hrx : dev.ubRfState = .rx
      · simp [rfStep,rf433SendTimer,hrun,hrx,Guarded,ReadsIdle]
      · simp [rfStep,rf433SendTimer,hrun,hrx,Guarded,ReadsIdle,rfRestart]
    · simpa [rfStep,rf433SendTimer,hrun,Guarded,ReadsIdle] using h

/-- In every state of a run outside receive the timer runs, exactly when every interrupt
handled after the last byte was sent reads an idle radio. -/
theorem radio_watchdog_iff (cnt : UInt32) (txLen : UInt8) (es : List RfEvent) :
    AllCuts rfStep Guarded (.started cnt txLen) es ↔
      Along rfStep ReadsIdle (.started cnt txLen) es :=
  allCuts_iff_along rfStep_guarded fun hne => absurd rfl hne

/-- A message is sent, and the interrupt at its end reads a radio that is not yet idle. -/
def stuckRun : List RfEvent :=
  [.radioSend,.irq [⟨0xff,0,0⟩,⟨0xff,0,6⟩,⟨0xff,0,6⟩] 0,.irq [] 1]

theorem radio_watchdog_counterexample :
    ¬ ∀ (cnt : UInt32) (txLen : UInt8) (es : List RfEvent),
      AllCuts rfStep Guarded (.started cnt txLen) es := by
  intro hall
  have hstuck := hall 0 0 stuckRun stuckRun (List.prefix_refl _)
  exact absurd (hstuck (by decide)) (by decide)

end GatewayF411
