import GatewayF411.Lib.Chunks
import GatewayF411.RadioReceive

set_option autoImplicit false

namespace GatewayF411
open Runs Bytes Cells Chunks

namespace RxDevice

/-- The loop of `ReceiveData` over a FIFO of `total` bytes: where each round reads its header,
and the device when the FIFO is empty. Each round uses up fuel; `none` means that it ran out. -/
def receiveWhile (bytes : Nat → UInt8) (config : Ax5043Config) (total : Nat) :
    (fuel : Nat) → RxDevice → Option (List Nat × RxDevice)
  | 0, _ => none
  | fuel+1, dev =>
    if dev.pos < total then
      (receiveWhile bytes config total fuel (dev.receiveChunk bytes config)).map fun r =>
        (dev.pos :: r.1,r.2)
    else some ([],dev)

/-- `ReceiveData` with its own loop; a read of an empty FIFO gives any byte. -/
def receiveFifo (config : Ax5043Config) (fifo : List UInt8) (underrun : Nat → UInt8) (fuel : Nat)
    (dev : RxDevice) : Option (List Nat × RxDevice) :=
  receiveWhile (fun i => fifo.getD i (underrun i)) config fifo.length fuel
    (dev.receiveData (fun i => fifo.getD i (underrun i)) config 0)

end RxDevice

/-- A chunk as the chip writes it. Its length stands in the header if it is below 7, and it may
stand in a byte of its own. -/
structure FifoChunk where
  cmd : UInt8
  explicit : Bool
  payload : List UInt8
  cmd_lt : cmd.toNat < 32
  length_lt : payload.length < if explicit then 256 else 7
  data_le : cmd = fifocmdData → payload.length ≤ 65

namespace FifoChunk

def length (c : FifoChunk) : UInt8 := UInt8.ofNat c.payload.length

def header (c : FifoChunk) : List UInt8 :=
  if c.explicit then [0xe0 ||| c.cmd,c.length] else [(c.length <<< 5) ||| c.cmd]

def encode (c : FifoChunk) : List UInt8 := c.header ++ c.payload

def isData (c : FifoChunk) : Bool := c.cmd == fifocmdData && !c.payload.isEmpty
def isRssi (c : FifoChunk) : Bool := c.cmd == fifocmdRssi && c.payload.length == 1

def rssi (config : Ax5043Config) (c : FifoChunk) : Int :=
  (c.payload.headD 0).toInt8.toInt-config.axradioPhyRssioffset.toInt

def receive (config : Ax5043Config) (dev : RxDevice) (c : FifoChunk) : RxDevice :=
  { ubRssi := if c.isRssi then c.rssi config else dev.ubRssi
    rxLen := if c.isData then UInt8.ofNat c.payload.tail.length else dev.rxLen
    rxBuff i := if c.isData then c.payload.tail.getD i (dev.rxBuff i) else dev.rxBuff i
    pos := dev.pos+c.encode.length
    stores := if c.isData then dev.stores ++ List.range c.payload.tail.length else dev.stores }

def located (c : FifoChunk) (pos : Nat) : RxChunk := ⟨c.cmd,c.length,pos+c.header.length⟩

end FifoChunk

def fifoContent (cs : List FifoChunk) : List UInt8 := (cs.map FifoChunk.encode).flatten

def lastData (cs : List FifoChunk) : List UInt8 :=
  (cs.filter FifoChunk.isData).getLast?.elim [] fun c => c.payload.tail

def lastRssi (config : Ax5043Config) (cs : List FifoChunk) : Int :=
  (cs.filter FifoChunk.isRssi).getLast?.elim 0 fun c => c.rssi config

theorem codedHeader : ∀ (n : Fin 7) (cmd : Fin 32),
    ((UInt8.ofNat n <<< 5 ||| UInt8.ofNat cmd) &&& 0xe0) >>> 5 = UInt8.ofNat n ∧
    (UInt8.ofNat n <<< 5 ||| UInt8.ofNat cmd) &&& 0x1f = UInt8.ofNat cmd ∧
    UInt8.ofNat n ≠ 7 := by
  decide +kernel

theorem explicitHeader : ∀ cmd : Fin 32,
    ((0xe0 ||| UInt8.ofNat cmd) &&& 0xe0) >>> 5 = 7 ∧
    (0xe0 ||| UInt8.ofNat cmd) &&& 0x1f = UInt8.ofNat cmd := by
  decide +kernel

section Step
variable {bytes : Nat → UInt8} {config : Ax5043Config} {dev : RxDevice} {c : FifoChunk}

theorem FifoChunk.length_toNat : c.length.toNat = c.payload.length := by
  have hlt := c.length_lt
  refine UInt8.toNat_ofNat_of_lt' (Nat.lt_of_lt_of_le hlt ?_)
  split <;> decide

theorem FifoChunk.ofNat_cmd : UInt8.ofNat (⟨c.cmd.toNat,c.cmd_lt⟩ : Fin 32) = c.cmd :=
  UInt8.ofNat_toNat

theorem FifoChunk.encode_pos : 0 < c.encode.length := by
  unfold FifoChunk.encode FifoChunk.header
  split <;> simp

theorem chunkAt_encode {pos : Nat} (h : Holds bytes pos c.encode) :
    chunkAt bytes pos = c.located pos := by
  have hlt := c.length_lt
  unfold FifoChunk.encode FifoChunk.header at h
  unfold chunkAt FifoChunk.located FifoChunk.header
  cases hexp : c.explicit with
  | true =>
    simp only [hexp,if_true,List.cons_append,List.nil_append,holds_cons] at h
    have hhead := explicitHeader ⟨c.cmd.toNat,c.cmd_lt⟩
    rw [FifoChunk.ofNat_cmd] at hhead
    rw [h.1,h.2.1,hhead.1,hhead.2]
    rfl
  | false =>
    simp only [hexp,Bool.false_eq_true,if_false,List.cons_append,List.nil_append,holds_cons] at h hlt
    have hhead := codedHeader ⟨c.payload.length,hlt⟩ ⟨c.cmd.toNat,c.cmd_lt⟩
    rw [FifoChunk.ofNat_cmd] at hhead
    have hcode : ((c.length <<< 5 ||| c.cmd) &&& 0xe0) >>> 5 = c.length := hhead.1
    have hcmd : (c.length <<< 5 ||| c.cmd) &&& 0x1f = c.cmd := hhead.2.1
    have hne : c.length ≠ 7 := hhead.2.2
    rw [h.1,hcode,hcmd,if_neg hne]
    rfl

theorem FifoChunk.located_next {pos : Nat} : (c.located pos).next = pos+c.encode.length := by
  simp only [RxChunk.next,FifoChunk.located,FifoChunk.length_toNat,FifoChunk.encode,
    List.length_append,Nat.add_assoc]

theorem FifoChunk.located_isData {pos : Nat} : (c.located pos).isData = c.isData := by
  have hzero : (c.length != 0) = !c.payload.isEmpty := by
    have hlen := c.length_toNat
    cases hp : c.payload with
    | nil =>
      rw [hp] at hlen
      have hz : c.length = 0 := UInt8.toNat_inj.mp hlen
      rw [hz]
      rfl
    | cons x xs =>
      rw [hp] at hlen
      have hne : c.length ≠ 0 := by
        intro hz
        rw [hz] at hlen
        exact absurd hlen (by simp)
      simpa using hne
  unfold RxChunk.isData FifoChunk.isData FifoChunk.located
  rw [hzero]

theorem FifoChunk.isRssi_iff : c.isRssi = true ↔ c.cmd = fifocmdRssi ∧ c.length = 1 := by
  have hlen := c.length_toNat
  rw [FifoChunk.isRssi,Bool.and_eq_true,beq_iff_eq,beq_iff_eq,← hlen]
  exact and_congr_right fun _ => UInt8.toNat_inj (b := 1)

theorem FifoChunk.data_payload (hdata : c.isData = true) :
    ∃ flags rest, c.payload = flags :: rest ∧ (c.length-1).toNat = rest.length ∧ rest.length ≤ 64 := by
  simp only [FifoChunk.isData,Bool.and_eq_true,beq_iff_eq] at hdata
  have hlen := c.length_toNat
  have hle := c.data_le hdata.1
  cases hp : c.payload with
  | nil => simp [hp] at hdata
  | cons flags rest =>
    rw [hp,List.length_cons] at hlen hle
    have hne : c.length ≠ 0 := by
      intro hz
      rw [hz] at hlen
      exact absurd hlen (by simp)
    have hpred := toNat_pred hne
    exact ⟨flags,rest,rfl,by omega,by omega⟩

theorem receive_located (h : Holds bytes dev.pos c.encode) :
    (c.located dev.pos).receive bytes config dev = c.receive config dev := by
  have hbody := (holds_append.mp h).2
  unfold RxChunk.receive FifoChunk.receive
  rw [FifoChunk.located_isData,FifoChunk.located_next]
  by_cases hdata : c.isData = true
  · have hrssi : ¬ c.isRssi = true := by
      simp only [FifoChunk.isData,Bool.and_eq_true,beq_iff_eq] at hdata
      rw [FifoChunk.isRssi_iff,hdata.1]
      exact fun h => absurd h.1 (by decide)
    obtain ⟨flags,rest,hp,hlen,_⟩ := FifoChunk.data_payload hdata
    have hbyte : c.length-1 = UInt8.ofNat rest.length := by rw [← hlen,UInt8.ofNat_toNat]
    rw [hp,holds_cons] at hbody
    simp only [if_pos hdata,if_neg hrssi,FifoChunk.located,hlen,hp,List.tail_cons,hbody.2.getD]
    rw [hbyte]
  · by_cases hrssi : c.isRssi = true
    · have hone : c.payload.length = 1 := by
        simp only [FifoChunk.isRssi,Bool.and_eq_true,beq_iff_eq] at hrssi
        exact hrssi.2
      obtain ⟨r,hp⟩ := List.length_eq_one_iff.mp hone
      rw [hp,holds_cons] at hbody
      simp only [if_neg hdata,if_pos hrssi,FifoChunk.located,if_pos (FifoChunk.isRssi_iff.mp hrssi),
        FifoChunk.rssi,hp,List.headD_cons,hbody.1]
    · have hno : ¬ (c.cmd = fifocmdRssi ∧ c.length = 1) := fun h => hrssi (FifoChunk.isRssi_iff.mpr h)
      simp only [if_neg hdata,if_neg hrssi,FifoChunk.located]
      exact if_neg hno

theorem receiveChunk_encode (h : Holds bytes dev.pos c.encode) :
    dev.receiveChunk bytes config = c.receive config dev := by
  rw [receiveChunk_eq,chunkAt_encode h,receive_located h]

end Step

section Fifo
variable {bytes : Nat → UInt8} {config : Ax5043Config}

theorem fifoContent_cons (c : FifoChunk) (cs : List FifoChunk) :
    fifoContent (c :: cs) = c.encode ++ fifoContent cs := rfl

theorem receiveLoop_chunks {dev : RxDevice} {cs : List FifoChunk}
    (h : Holds bytes dev.pos (fifoContent cs)) :
    dev.receiveLoop bytes config cs.length = cs.foldl (FifoChunk.receive config) dev := by
  induction cs generalizing dev with
  | nil => rfl
  | cons c cs ih =>
    rw [fifoContent_cons,holds_append] at h
    rw [List.length_cons,RxDevice.receiveLoop,receiveChunk_encode h.1,List.foldl_cons]
    exact ih h.2

/-- The loop ends with the last chunk, and every round starts where a chunk starts. -/
theorem receiveWhile_chunks {dev : RxDevice} {cs : List FifoChunk} {total fuel : Nat}
    (h : Holds bytes dev.pos (fifoContent cs)) (htotal : dev.pos+(fifoContent cs).length = total)
    (hfuel : cs.length < fuel) :
    dev.receiveWhile bytes config total fuel =
      some ((List.range cs.length).map fun k => dev.pos+offset (cs.map FifoChunk.encode) k,
        dev.receiveLoop bytes config cs.length) := by
  induction cs generalizing dev fuel with
  | nil =>
    obtain ⟨fuel,rfl⟩ := Nat.exists_eq_succ_of_ne_zero (Nat.ne_of_gt hfuel)
    have hend : ¬ dev.pos < total := by
      rw [← htotal]
      exact Nat.lt_irrefl _
    rw [RxDevice.receiveWhile,if_neg hend]
    rfl
  | cons c cs ih =>
    obtain ⟨fuel,rfl⟩ := Nat.exists_eq_succ_of_ne_zero (Nat.ne_of_gt (Nat.zero_lt_of_lt hfuel))
    rw [fifoContent_cons,holds_append] at h
    rw [fifoContent_cons,List.length_append,← Nat.add_assoc] at htotal
    have hmore : dev.pos < total := by
      have hpos := c.encode_pos
      omega
    have hnext : Holds bytes (c.receive config dev).pos (fifoContent cs) := h.2
    have hrest := ih hnext htotal (Nat.lt_of_succ_lt_succ hfuel)
    rw [RxDevice.receiveWhile,if_pos hmore,receiveChunk_encode h.1,hrest,List.length_cons,
      List.range_succ_eq_map,List.map_cons,List.map_cons,List.map_map,RxDevice.receiveLoop,
      receiveChunk_encode h.1]
    have hshift : ((fun k => dev.pos+offset (c.encode :: cs.map FifoChunk.encode) k) ∘ Nat.succ) =
        fun k => (c.receive config dev).pos+offset (cs.map FifoChunk.encode) k := by
      funext k
      rw [Function.comp_apply,Nat.succ_eq_add_one,offset_cons,← Nat.add_assoc]
      rfl
    rw [hshift]
    rfl

theorem receive_lastRssi (dev : RxDevice) (cs : List FifoChunk) :
    (cs.foldl (FifoChunk.receive config) dev).ubRssi =
      (cs.filter FifoChunk.isRssi).getLast?.elim dev.ubRssi fun c => c.rssi config :=
  foldl_lastSet RxDevice.ubRssi FifoChunk.isRssi _ (fun _ _ => rfl) dev cs

theorem receive_buffer_step (dev : RxDevice) (c : FifoChunk) :
    slice (c.receive config dev).rxBuff 0 (c.receive config dev).rxLen.toNat =
      if c.isData then c.payload.tail else slice dev.rxBuff 0 dev.rxLen.toNat := by
  unfold FifoChunk.receive
  by_cases hdata : c.isData = true
  · obtain ⟨flags,rest,hp,_,hle⟩ := FifoChunk.data_payload hdata
    have hlen : (UInt8.ofNat rest.length).toNat = rest.length :=
      UInt8.toNat_ofNat_of_lt' (Nat.lt_of_le_of_lt hle (by decide))
    simp only [if_pos hdata,hp,List.tail_cons,hlen]
    have hslice := slice_of_holds (holds_getD rest dev.rxBuff)
    rwa [Nat.zero_add] at hslice
  · simp only [if_neg hdata]

theorem receive_lastData (dev : RxDevice) (cs : List FifoChunk) :
    slice (cs.foldl (FifoChunk.receive config) dev).rxBuff 0
        (cs.foldl (FifoChunk.receive config) dev).rxLen.toNat =
      (cs.filter FifoChunk.isData).getLast?.elim (slice dev.rxBuff 0 dev.rxLen.toNat)
        fun c => c.payload.tail :=
  foldl_lastSet (fun dev => slice dev.rxBuff 0 dev.rxLen.toNat) FifoChunk.isData _
    receive_buffer_step dev cs

theorem receive_pos (dev : RxDevice) (cs : List FifoChunk) :
    (cs.foldl (FifoChunk.receive config) dev).pos = dev.pos+(fifoContent cs).length := by
  induction cs generalizing dev with
  | nil => rfl
  | cons c cs ih =>
    rw [List.foldl_cons,ih,fifoContent_cons,List.length_append,← Nat.add_assoc]
    rfl

theorem receive_stores_lt {dev : RxDevice} (cs : List FifoChunk) (h : ∀ i ∈ dev.stores, i < 64) :
    ∀ i ∈ (cs.foldl (FifoChunk.receive config) dev).stores, i < 64 := by
  refine foldl_inv (fun dev : RxDevice => ∀ i ∈ dev.stores, i < 64) (fun dev c h => ?_) cs h
  unfold FifoChunk.receive
  by_cases hdata : c.isData = true
  · obtain ⟨flags,rest,hp,_,hle⟩ := FifoChunk.data_payload hdata
    simp only [if_pos hdata,hp,List.tail_cons]
    intro i hi
    rcases List.mem_append.mp hi with hi | hi
    · exact h i hi
    · exact Nat.lt_of_lt_of_le (List.mem_range.mp hi) hle
  · simp only [if_neg hdata]
    exact h

end Fifo

/-- On a FIFO of whole chunks `ReceiveData` ends with the FIFO empty. It has read every header
where a chunk starts and stored nothing behind `RXBuff`, which holds the data of the last data
chunk, and the strength is that of the last chunk of one byte that tells it. -/
theorem receiveData_fifo (config : Ax5043Config) (cs : List FifoChunk) (underrun : Nat → UInt8)
    (dev : RxDevice) :
    ∃ dev', (∀ fuel, cs.length < fuel →
        dev.receiveFifo config (fifoContent cs) underrun fuel =
          some ((List.range cs.length).map (offset (cs.map FifoChunk.encode)),dev')) ∧
      dev'.pos = (fifoContent cs).length ∧ (∀ i ∈ dev'.stores, i < 64) ∧
      dev'.rxLen.toNat = (lastData cs).length ∧
      slice dev'.rxBuff 0 dev'.rxLen.toNat = lastData cs ∧ dev'.ubRssi = lastRssi config cs := by
  have hholds := holds_getD (fifoContent cs) underrun
  obtain ⟨buff,hstart⟩ : ∃ buff, dev.receiveData (fun i => (fifoContent cs).getD i (underrun i))
      config 0 = ⟨0,0,buff,0,[]⟩ := ⟨_,rfl⟩
  have hlast : slice (cs.foldl (FifoChunk.receive config) ⟨0,0,buff,0,[]⟩).rxBuff 0
      (cs.foldl (FifoChunk.receive config) ⟨0,0,buff,0,[]⟩).rxLen.toNat = lastData cs := by
    rw [receive_lastData]
    exact congrArg (fun d => Option.elim _ d _) (slice_empty (Nat.le_refl 0))
  have hlen := congrArg List.length hlast
  rw [slice_length,Nat.sub_zero] at hlen
  refine ⟨cs.foldl (FifoChunk.receive config) ⟨0,0,buff,0,[]⟩,fun fuel hfuel => ?_,?_,?_,hlen,hlast,?_⟩
  · rw [RxDevice.receiveFifo,hstart,receiveWhile_chunks hholds (Nat.zero_add _) hfuel,
      receiveLoop_chunks hholds]
    simp only [Nat.zero_add]
  · rw [receive_pos,Nat.zero_add]
  · exact receive_stores_lt cs (by simp)
  · rw [receive_lastRssi]
    rfl

end GatewayF411
