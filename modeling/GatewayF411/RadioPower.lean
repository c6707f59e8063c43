import GatewayF411.Radio433

/-!
The transmit power of the 433 MHz radio: the flag `axradio_power_now` and the two registers
of the chip that it stands for. Every restart of the chip loads the register table again.
-/

set_option autoImplicit false

namespace GatewayF411
open Runs

def regTxpwrcoeffb1 : UInt16 := 0x16a
def regTxpwrcoeffb0 : UInt16 := 0x16b

/-- The power registers; a write to any other register leaves them alone. -/
structure TxPower where
  txpwrcoeffb1 : UInt8
  txpwrcoeffb0 : UInt8
  deriving DecidableEq, Repr

def spiWriteLongAddressRegister (addr : UInt16) (data : UInt8) (regs : TxPower) : TxPower where
  txpwrcoeffb1 := if addr = regTxpwrcoeffb1 then data else regs.txpwrcoeffb1
  txpwrcoeffb0 := if addr = regTxpwrcoeffb0 then data else regs.txpwrcoeffb0

def setRegisters433 : List (UInt16 × UInt16) :=
  [(0x10,0x08),(0x11,0x00),(0x12,0x26),(0x21,0x01),(0x22,0x01),(0x23,0x01),(0x25,0x04),
    (0x26,0x00),(0x6e,0x01),(0x100,0x01),(0x101,0xe4),(0x102,0x16),(0x103,0x00),(0x104,0x3d),
    (0x105,0x8d),(0x106,0x00),(0x107,0x00),(0x108,0x00),(0x109,0x80),(0x10a,0x02),(0x10b,0x31),
    (0x10c,0x00),(0x10d,0xa6),(0x10e,0xff),(0x10f,0x5a),(0x115,0x00),(0x117,0xf4),(0x120,0xc5),
    (0x121,0x84),(0x124,0xf8),(0x125,0xf2),(0x126,0xc3),(0x127,0x0f),(0x128,0x1f),(0x129,0x08),
    (0x12a,0x08),(0x12b,0x06),(0x12c,0x00),(0x12d,0x00),(0x12f,0x00),(0x130,0xc5),(0x131,0x84),
    (0x132,0x00),(0x133,0x00),(0x134,0xf6),(0x135,0xf1),(0x136,0xc3),(0x137,0x0f),(0x138,0x1f),
    (0x139,0x08),(0x13a,0x08),(0x13b,0x06),(0x13c,0x00),(0x13d,0x3e),(0x13e,0x16),(0x13f,0x00),
    (0x150,0xff),(0x151,0x84),(0x152,0x00),(0x153,0x00),(0x154,0xf5),(0x155,0xf0),(0x156,0xc3),
    (0x157,0x0f),(0x158,0x1f),(0x159,0x0c),(0x15a,0x0c),(0x15b,0x06),(0x15c,0x00),(0x15d,0x3e),
    (0x15e,0x16),(0x15f,0x00),(0x160,0x00),(0x161,0x00),(0x162,0x04),(0x163,0x2f),(0x164,0x05),
    (0x165,0x00),(0x166,0x0c),(0x167,0x19),(0x16a,0x07),(0x16b,0x00),(0x180,0x99),(0x183,0x04),
    (0x188,0x0f),(0x189,0x77),(0x200,0x00),(0x201,0x80),(0x202,0x00),(0x203,0xc8),(0x210,0xaa),
    (0x211,0xcc),(0x212,0xaa),(0x213,0xcc),(0x214,0x9f),(0x216,0x1f),(0x218,0x55),(0x219,0x55),
    (0x21c,0x8a),(0x21e,0x0a),(0x220,0x3e),(0x221,0x31),(0x223,0x3e),(0x224,0x31),(0x225,0x00),
    (0x226,0x7f),(0x228,0x03),(0x22a,0x35),(0x22d,0xe0),(0x22f,0x00),(0x230,0x0d),(0x233,0x20),
    (0x330,0x00),(0x331,0x00),(0x332,0x00),(0xf0d,0x03),(0xf10,0x04),(0xf11,0x00),(0xf1c,0x07),
    (0xf21,0x68),(0xf22,0xff),(0xf23,0x84),(0xf26,0x98),(0xf34,0x28),(0xf35,0x11),(0xf44,0x25)]

/-- The loop of `InitAx5043REG` stops before the last row. What it writes after the loop, and
what `rf_restart` and `rf_startup` write besides, are other registers. -/
def initAx5043Reg (regs : TxPower) : TxPower :=
  (setRegisters433.take 125).foldl
    (fun regs row => spiWriteLongAddressRegister row.1 row.2.toUInt8 regs) regs

/-- The transceiver with its power flag and its power registers. -/
structure PowerRadio where
  dev : Rf433
  axradioPowerNow : UInt8
  regs : TxPower
  deriving DecidableEq, Repr

def changeMaxPower (s : PowerRadio) : PowerRadio :=
  if s.axradioPowerNow = 0 then
    { s with
      axradioPowerNow := 1
      regs := spiWriteLongAddressRegister regTxpwrcoeffb0 0x00
        (spiWriteLongAddressRegister regTxpwrcoeffb1 0x0c s.regs) }
  else s

def backNormalPower (s : PowerRadio) : PowerRadio :=
  if s.axradioPowerNow ≠ 0 then
    { s with
      axradioPowerNow := 0
      regs := spiWriteLongAddressRegister regTxpwrcoeffb0 0x00
        (spiWriteLongAddressRegister regTxpwrcoeffb1 0x07 s.regs) }
  else s

/-- The interrupt at the end of a transmission and the timer call `rf_restart`. -/
def restarts (dev : Rf433) : RfEvent → Bool
  | .irq _ radiostate => dev.ubRfState == .txWaitdone && radiostate == 0
  | .sendTimeout => dev.sendTimer && dev.ubRfState != .rx
  | _ => false

def rfStartup (s : PowerRadio) : PowerRadio :=
  { s with dev := { s.dev with ubRfState := .rx }, regs := initAx5043Reg s.regs }

inductive PowerEvent where
  | changeMaxPower
  | backNormalPower
  | radio (e : RfEvent)
  | rfStartup
  deriving DecidableEq, Repr

def powerStep (s : PowerRadio) : PowerEvent → PowerRadio
  | .changeMaxPower => changeMaxPower s
  | .backNormalPower => backNormalPower s
  | .radio e =>
    { s with
      dev := rfStep s.dev e
      regs := if restarts s.dev e then initAx5043Reg s.regs else s.regs }
  | .rfStartup => rfStartup s

/-- `rf_433` begins with a flag of zero, and `rf_433_start` starts the chip. -/
def PowerRadio.started (dev : Rf433) (regs : TxPower) : PowerRadio := rfStartup ⟨dev,0,regs⟩

def Mirrors (s : PowerRadio) : Prop :=
  (s.axradioPowerNow = 1 ↔ s.regs.txpwrcoeffb1 = 0x0c) ∧
  (s.axradioPowerNow = 0 ↔ s.regs.txpwrcoeffb1 = 0x07)

def LoadsNormal (s : PowerRadio) : PowerEvent → Prop
  | .radio e => restarts s.dev e = true → s.axradioPowerNow = 0
  | .rfStartup => s.axradioPowerNow = 0
  | _ => True

theorem initAx5043Reg_txpwrcoeffb1 (regs : TxPower) : (initAx5043Reg regs).txpwrcoeffb1 = 0x07 := by
  have hrow : ((setRegisters433.take 125).filter fun row => row.1 = regTxpwrcoeffb1).getLast? =
      some (regTxpwrcoeffb1,0x07) := by decide +kernel
  rw [initAx5043Reg,foldl_lastSet TxPower.txpwrcoeffb1 (fun row => row.1 = regTxpwrcoeffb1)
    (fun row => row.2.toUInt8) (fun regs row => ?_),hrow]
  · rfl
  · simp [spiWriteLongAddressRegister]

/-- After the table is loaded the flag is right if it says that the power is normal. -/
theorem mirrors_loaded {s : PowerRadio} (hb1 : s.regs.txpwrcoeffb1 = 0x07) :
    Mirrors s ↔ s.axradioPowerNow = 0 := by
  unfold Mirrors
  rw [hb1]
  constructor
  · exact fun h => h.2.mpr rfl
  · intro hzero
    rw [hzero]
    decide

theorem powerStep_mirrors (s : PowerRadio) (e : PowerEvent) (h : Mirrors s) :
    Mirrors (powerStep s e) ↔ LoadsNormal s e := by
  cases e with
  | changeMaxPower =>
    refine iff_of_true ?_ trivial
    by_cases hflag : s.axradioPowerNow = 0
    · simp [powerStep,changeMaxPower,hflag,Mirrors,spiWriteLongAddressRegister,regTxpwrcoeffb0,
        regTxpwrcoeffb1]
    · rwa [powerStep,changeMaxPower,if_neg hflag]
  | backNormalPower =>
    refine iff_of_true ?_ trivial
    by_cases hflag : s.axradioPowerNow = 0
    · rwa [powerStep,backNormalPower,if_neg (Decidable.not_not.mpr hflag)]
    · simp [powerStep,backNormalPower,hflag,Mirrors,spiWriteLongAddressRegister,regTxpwrcoeffb0,
        regTxpwrcoeffb1]
  | radio e =>
    by_cases hload : restarts s.dev e = true
    · rw [LoadsNormal,mirrors_loaded]
      · exact ⟨fun h _ => h,fun h => h hload⟩
      · simp only [powerStep,if_pos hload,initAx5043Reg_txpwrcoeffb1]
    · refine iff_of_true ?_ fun hr => absurd hr hload
      simp only [powerStep,if_neg hload]
      exact h
  | rfStartup => exact mirrors_loaded (initAx5043Reg_txpwrcoeffb1 s.regs)

/-- The flag tells what the chip holds in every state of a run exactly when every restart and
every start of the chip finds the flag at normal power. -/
theorem power_flag_iff (dev : Rf433) (regs : TxPower) (es : List PowerEvent) :
    AllCuts powerStep Mirrors (.started dev regs) es ↔
      Along powerStep LoadsNormal (.started dev regs) es :=
  allCuts_iff_along powerStep_mirrors
    ((mirrors_loaded (initAx5043Reg_txpwrcoeffb1 regs)).mpr rfl)

/-- The probe of a station: the power goes up, a message is sent, and its end restarts the chip. -/
def probeRun : List PowerEvent :=
  [.changeMaxPower,.radio .gatewayDataSend,
    .radio (.irq [⟨0xff,0,0⟩,⟨0xff,0,6⟩,⟨0xff,0,6⟩] 0),.radio (.irq [] 0)]

theorem power_flag_counterexample :
    ¬ ∀ (dev : Rf433) (regs : TxPower) (es : List PowerEvent),
      AllCuts powerStep Mirrors (.started dev regs) es := by
  intro hall
  have hlast := hall (.started 0 0) ⟨0,0⟩ probeRun probeRun (List.prefix_refl _)
  have hflag : (probeRun.foldl powerStep (.started (.started 0 0) ⟨0,0⟩)).axradioPowerNow = 1 := by
    decide +kernel
  have hreg : (probeRun.foldl powerStep (.started (.started 0 0) ⟨0,0⟩)).regs.txpwrcoeffb1 ≠ 0x0c := by
    decide +kernel
  exact hreg (hlast.1.mp hflag)

end GatewayF411
