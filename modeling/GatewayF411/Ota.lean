import Mathlib.Logic.Function.Basic

set_option autoImplicit false

namespace GatewayF411

structure FalPartition where
  len : UInt32
  deriving DecidableEq, Repr

/-- The entry of the partition table named `download`. -/
def downloadPart : FalPartition := ⟨512*1024⟩

/-- What the flash layer answers while one frame is handled. A failed operation leaves
`left` in the range it was asked to change, and an erase also beyond its range. -/
structure FalIo where
  found : Bool
  eraseOk : Bool
  writeOk : Bool
  left : Nat → UInt8

/-- One frame in `wifi_data_process_buf`, read from its first header byte on. -/
structure OtaFrame where
  buf : Nat → UInt8
  io : FalIo

/-- The statics of `wifi_ota.c` and `data_handle`, and the download partition. -/
structure Ota where
  firmLength : UInt32
  firmUpdateFlag : UInt8
  firmSize : UInt16
  updateFileTotalSize : UInt32
  updateFileCurSize : UInt32
  dlPart : Option FalPartition
  flash : Nat → UInt8

/-- Calls that leave the module, with their results. -/
inductive OtaCall where
  | writeFrame (cmd : UInt8) (data : List UInt8)
  | find (found : Bool)
  | erase (size : UInt32) (ok : Bool)
  | write (addr size : UInt32) (ok : Bool)
  | wifiOtaEnd
  deriving DecidableEq, Repr

def updateStartCmd : UInt8 := 0x1d
def updateTransCmd : UInt8 := 0x1e
def subdevStartUpgradeCmd : UInt8 := 0x1f
def subdevTransCmd : UInt8 := 0x20
def packageSize : UInt8 := 2
def frameType : Nat := 3
def lengthHigh : Nat := 4
def lengthLow : Nat := 5
def dataStart : Nat := 6

def Ota.boot (flash : Nat → UInt8) : Ota where
  firmLength := 0
  firmUpdateFlag := 0
  firmSize := 0
  updateFileTotalSize := 0
  updateFileCurSize := 0
  dlPart := none
  flash := flash

def overwrite (addr size : Nat) (buf flash : Nat → UInt8) : Nat → UInt8 :=
  fun a => if addr ≤ a ∧ a < addr+size then buf (a-addr) else flash a

def falPartitionFind (io : FalIo) : Option FalPartition :=
  if io.found then some downloadPart else none

/-- `fal_partition_erase` from address 0; whole sectors are erased, so what lies beyond
the range is not kept. -/
def falPartitionErase (io : FalIo) (part : FalPartition) (size : UInt32) (flash : Nat → UInt8) :
    Bool × (Nat → UInt8) :=
  if part.len < size then (false,flash)
  else if io.eraseOk then (true,overwrite 0 size.toNat (fun _ => 0xff) io.left)
  else (false,io.left)

/-- Without a partition the flash device is looked up under no valid name. -/
def falPartitionWrite (io : FalIo) (part : Option FalPartition) (addr : UInt32)
    (buf : Nat → UInt8) (size : UInt32) (flash : Nat → UInt8) : Bool × (Nat → UInt8) :=
  match part with
  | none => (false,flash)
  | some part =>
    if part.len < addr+size then (false,flash)
    else if io.writeOk then (true,overwrite addr.toNat size.toNat buf flash)
    else (false,overwrite addr.toNat size.toNat io.left flash)

def wifiOtaBegin (io : FalIo) (fileSize : UInt32) (s : Ota) : List OtaCall × Ota :=
  let s := { s with updateFileTotalSize := fileSize, dlPart := falPartitionFind io }
  match s.dlPart with
  | none => ([.find false],s)
  | some part =>
    if part.len < s.updateFileTotalSize then ([.find true],s)
    else
      let r := falPartitionErase io part s.updateFileTotalSize s.flash
      ([.find true,.erase s.updateFileTotalSize r.1],{ s with flash := r.2 })

def wifiOtaReceive (io : FalIo) (buf : Nat → UInt8) (offset len : UInt32) (s : Ota) :
    List OtaCall × Ota :=
  if s.updateFileCurSize ≠ offset then ([],s)
  else
    let r := falPartitionWrite io s.dlPart s.updateFileCurSize buf len s.flash
    let s' := { s with flash := r.2 }
    if r.1 then
      ([.write s.updateFileCurSize len true],
        { s' with updateFileCurSize := s.updateFileCurSize+len })
    else ([.write s.updateFileCurSize len false],s')

/-- The processor is reset: nothing after the call is executed. -/
def wifiOtaEnd (s : Ota) : List OtaCall × Ota := ([.wifiOtaEnd],.boot s.flash)

structure Handled where
  ret : Option UInt8
  calls : List OtaCall
  ota : Ota

def mcuFirmUpdateHandle (io : FalIo) (value : Nat → UInt8) (position : UInt32) (length : UInt16)
    (s : Ota) : Handled :=
  if length = 0 then
    let r := wifiOtaEnd s
    ⟨none,r.1,r.2⟩
  else
    let r := wifiOtaReceive io value position length.toUInt32 s
    ⟨some 1,r.1,r.2⟩

def subdevFirmUpdateHandle (s : Ota) : Handled := ⟨some 1,[],s⟩

def word32 (buf : Nat → UInt8) (i : Nat) : UInt32 :=
  ((((buf i).toUInt32 <<< 8 ||| (buf (i+1)).toUInt32) <<< 8 ||| (buf (i+2)).toUInt32) <<< 8 |||
    (buf (i+3)).toUInt32)

def totalLen (buf : Nat → UInt8) : UInt16 :=
  (buf lengthHigh).toUInt16 <<< 8 ||| (buf lengthLow).toUInt16

def firmSizeOf (firmFlag : UInt8) (firmSize : UInt16) : UInt16 :=
  if firmFlag = 0 then 256 else if firmFlag = 1 then 512 else if firmFlag = 2 then 1024
  else firmSize

def updateStart (f : OtaFrame) (s : Ota) : List OtaCall × Ota :=
  let firmLength := word32 f.buf dataStart
  let r := wifiOtaBegin f.io firmLength
    { s with firmSize := firmSizeOf packageSize s.firmSize, firmLength := firmLength,
             firmUpdateFlag := updateStartCmd }
  (.writeFrame updateStartCmd [packageSize] :: r.1,r.2)

/-- The end of both transfer commands: acknowledge a packet that was taken. -/
def transDone (cmd : UInt8) (h : Handled) : List OtaCall × Ota :=
  if h.ret = some 1 then (h.calls ++ [.writeFrame cmd []],h.ota) else (h.calls,h.ota)

/-- The comparison with `firm_size` is made on `int`, the length is passed as an
`unsigned short`. `handle` gets the length of the packet and the state. -/
def transPacket (cmd : UInt8) (head : Nat) (total : UInt16) (position : UInt32)
    (handle : UInt16 → Ota → Handled) (s : Ota) : List OtaCall × Ota :=
  if total.toNat = head ∧ position = s.firmLength then
    let h := handle 0 s
    if h.ret.isSome then transDone cmd { h with ota := { h.ota with firmUpdateFlag := 0 } }
    else (h.calls,h.ota)
  else if (total.toNat : Int)-head ≤ s.firmSize.toNat then
    transDone cmd (handle (total-UInt16.ofNat head) s)
  else transDone cmd ⟨some 0,[],{ s with firmUpdateFlag := 0 }⟩

def updateTrans (f : OtaFrame) (s : Ota) : List OtaCall × Ota :=
  if s.firmUpdateFlag = updateStartCmd then
    let position := word32 f.buf dataStart
    transPacket updateTransCmd 4 (totalLen f.buf) position
      (mcuFirmUpdateHandle f.io (fun i => f.buf (dataStart+4+i)) position) s
  else ([],s)

def subdevStartUpgrade (f : OtaFrame) (s : Ota) : List OtaCall × Ota :=
  let subIdLen := (f.buf dataStart).toNat
  ([.writeFrame subdevStartUpgradeCmd [packageSize]],
    { s with firmSize := firmSizeOf packageSize s.firmSize,
             firmLength := word32 f.buf (dataStart+1+subIdLen),
             firmUpdateFlag := subdevStartUpgradeCmd })

def subdevTrans (f : OtaFrame) (s : Ota) : List OtaCall × Ota :=
  if s.firmUpdateFlag = subdevStartUpgradeCmd then
    let subIdLen := (f.buf dataStart).toNat
    transPacket subdevTransCmd (4+1+subIdLen) (totalLen f.buf)
      (word32 f.buf (dataStart+1+subIdLen)) (fun _ => subdevFirmUpdateHandle) s
  else ([],s)

def dataHandle (s : Ota) (f : OtaFrame) : List OtaCall × Ota :=
  if f.buf frameType = updateStartCmd then updateStart f s
  else if f.buf frameType = updateTransCmd then updateTrans f s
  else if f.buf frameType = subdevStartUpgradeCmd then subdevStartUpgrade f s
  else if f.buf frameType = subdevTransCmd then subdevTrans f s
  else ([],s)

def otaStep (s : Ota) (f : OtaFrame) : Ota := (dataHandle s f).2

def FalIo.allOk : FalIo := ⟨true,true,true,fun _ => 0⟩

/-- A frame as the WiFi module sends it, up to the checksum. -/
def otaFrame (cmd : UInt8) (data : List UInt8) : OtaFrame :=
  ⟨fun i => ([0x55,0xaa,3,cmd,UInt8.ofNat (data.length/256),UInt8.ofNat data.length] ++ data).getD i 0,
    .allOk⟩

theorem wifiOtaReceive_cases (io : FalIo) (buf : Nat → UInt8) (offset len : UInt32) (s : Ota) :
    wifiOtaReceive io buf offset len s = ([],s) ∨
    (∃ part, s.dlPart = some part ∧ s.updateFileCurSize+len ≤ part.len ∧
      wifiOtaReceive io buf offset len s = ([.write s.updateFileCurSize len true],
        { s with flash := overwrite s.updateFileCurSize.toNat len.toNat buf s.flash,
                 updateFileCurSize := s.updateFileCurSize+len })) ∨
    ∃ flash, wifiOtaReceive io buf offset len s =
      ([.write s.updateFileCurSize len false],{ s with flash := flash }) := by
  unfold wifiOtaReceive falPartitionWrite
  by_cases hoff : s.updateFileCurSize = offset
  · cases hpart : s.dlPart with
    | none => simp [hoff]
    | some part =>
      by_cases hlen : part.len < s.updateFileCurSize+len
      · simp [← hoff,hlen]
      · cases hok : io.writeOk with
        | false => simp [← hoff,hlen]
        | true =>
          have hle : s.updateFileCurSize+len ≤ part.len := UInt32.not_lt.mp hlen
          simp [← hoff,hlen,hle]
  · simp [hoff]

section Transfer
variable {f : OtaFrame} {s : Ota}

theorem updateTrans_idle (h : s.firmUpdateFlag ≠ updateStartCmd) : updateTrans f s = ([],s) :=
  if_neg h

theorem updateTrans_empty (h : s.firmUpdateFlag = updateStartCmd) (hlen : totalLen f.buf = 4) :
    updateTrans f s = ([.wifiOtaEnd],.boot s.flash) := by
  have hhead : (totalLen f.buf).toNat = 4 := by simp [hlen]
  have hzero : totalLen f.buf-4 = 0 := by simp [hlen]
  by_cases hpos : word32 f.buf dataStart = s.firmLength
  · simp [updateTrans,transPacket,h,hhead,hpos,mcuFirmUpdateHandle,wifiOtaEnd]
  · simp [updateTrans,transPacket,transDone,h,hhead,hzero,hpos,mcuFirmUpdateHandle,wifiOtaEnd]

/-- A packet that is not empty and not too long is received and acknowledged. -/
theorem updateTrans_packet (h : s.firmUpdateFlag = updateStartCmd) (hlen : totalLen f.buf ≠ 4)
    (hfits : (totalLen f.buf).toNat ≤ s.firmSize.toNat+4) :
    updateTrans f s =
      ((wifiOtaReceive f.io (fun i => f.buf (dataStart+4+i)) (word32 f.buf dataStart)
          (totalLen f.buf-4).toUInt32 s).1 ++ [.writeFrame updateTransCmd []],
        (wifiOtaReceive f.io (fun i => f.buf (dataStart+4+i)) (word32 f.buf dataStart)
          (totalLen f.buf-4).toUInt32 s).2) := by
  have hhead : (totalLen f.buf).toNat ≠ 4 := by
    intro hnat
    exact hlen (UInt16.toNat_inj.mp hnat)
  have hint : ((totalLen f.buf).toNat : Int)-4 ≤ s.firmSize.toNat := by omega
  have hsub : totalLen f.buf-4 ≠ 0 := by
    intro hz
    have hback := congrArg (fun n => n+4) hz
    exact hlen (by simpa using hback)
  simp [updateTrans,transPacket,transDone,h,hhead,hint,hsub,mcuFirmUpdateHandle]

theorem updateTrans_tooLong (h : s.firmUpdateFlag = updateStartCmd)
    (hlong : s.firmSize.toNat+4 < (totalLen f.buf).toNat) :
    updateTrans f s = ([],{ s with firmUpdateFlag := 0 }) := by
  have hhead : (totalLen f.buf).toNat ≠ 4 := by omega
  have hint : ¬ ((totalLen f.buf).toNat : Int)-4 ≤ s.firmSize.toNat := by omega
  simp [updateTrans,transPacket,transDone,h,hhead,hint]

end Transfer

end GatewayF411
