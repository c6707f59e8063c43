import GatewayF411.Lib.Bytes
import GatewayF411.RadioTransmit

/-!
`ReceiveData` of `Radio_Common.c`: the chunks that the chip has put into its FIFO are read one
after the other, and the payload of a data chunk goes to `RXBuff`. What the reads of
`REG_AX5043_FIFODATA` return is a stream of bytes, and the number of rounds is the number of
times that `REG_AX5043_IRQREQUEST0` says that there is more.
-/

set_option autoImplicit false

namespace GatewayF411
open Runs Bytes

def fifocmdData : UInt8 := 0x01
def fifocmdTimer : UInt8 := 0x10
def fifocmdRssi : UInt8 := 0x11
def fifocmdRffreqoffs : UInt8 := 0x13
def fifocmdAntrssi : UInt8 := 0x15

/-- The part of `struct ax5043` that the receiver uses. `RXBuff` has 64 bytes; what is stored
beyond them is kept at the index it is stored to. `pos` counts the bytes read from the FIFO,
and `stores` lists the indices written. -/
structure RxDevice where
  ubRssi : Int
  rxLen : UInt8
  rxBuff : Nat → UInt8
  pos : Nat
  stores : List Nat

namespace RxDevice
variable (bytes : Nat → UInt8)

def fifodata (dev : RxDevice) : UInt8 × RxDevice := (bytes dev.pos,{ dev with pos := dev.pos+1 })

def spiReadData (length : UInt8) (dev : RxDevice) : RxDevice :=
  { dev with
    rxBuff i := if i < length.toNat then bytes (dev.pos+i) else dev.rxBuff i
    pos := dev.pos+length.toNat
    stores := dev.stores ++ List.range length.toNat }

/-- The loop `do { read } while (--ubTepm)`, which goes round at most 256 times. -/
def dropLoop : (fuel : Nat) → UInt8 → RxDevice → RxDevice
  | 0, _, dev => dev
  | fuel+1, ubTepm, dev =>
    let dev := (dev.fifodata bytes).2
    if ubTepm-1 ≠ 0 then dropLoop fuel (ubTepm-1) dev else dev

def dropchunk (ubDataLen : UInt8) (dev : RxDevice) : RxDevice :=
  if ubDataLen = 0 then dev else dropLoop bytes 256 ubDataLen dev

def skipThree (dev : RxDevice) : RxDevice :=
  let dev := (dev.fifodata bytes).2
  let dev := (dev.fifodata bytes).2
  (dev.fifodata bytes).2

def receiveCase (config : Ax5043Config) (ubTemCom ubDataLen : UInt8) (dev : RxDevice) : RxDevice :=
  if ubTemCom = fifocmdData then
    if ubDataLen = 0 then dev
    else
      let dev := (dev.fifodata bytes).2
      { dev.spiReadData bytes (ubDataLen-1) with rxLen := ubDataLen-1 }
  else if ubTemCom = fifocmdRffreqoffs then
    if ubDataLen ≠ 3 then dev.dropchunk bytes ubDataLen else dev.skipThree bytes
  else if ubTemCom = fifocmdRssi then
    if ubDataLen ≠ 1 then dev.dropchunk bytes ubDataLen
    else
      let (r,dev) := dev.fifodata bytes
      { dev with ubRssi := r.toInt8.toInt-config.axradioPhyRssioffset.toInt }
  else if ubTemCom = fifocmdTimer then
    if ubDataLen ≠ 3 then dev.dropchunk bytes ubDataLen else dev.skipThree bytes
  else if ubTemCom = fifocmdAntrssi then
    if ubDataLen = 0 then dev
    else (dev.fifodata bytes).2.dropchunk bytes (ubDataLen-1)
  else dev.dropchunk bytes ubDataLen

def receiveChunk (config : Ax5043Config) (dev : RxDevice) : RxDevice :=
  let (ubTemCom,dev) := dev.fifodata bytes
  let ubDataLen := (ubTemCom &&& 0xe0) >>> 5
  let (ubDataLen,dev) := if ubDataLen = 0x07 then dev.fifodata bytes else (ubDataLen,dev)
  dev.receiveCase bytes config (ubTemCom &&& 0x1f) ubDataLen

def receiveLoop (config : Ax5043Config) : (rounds : Nat) → RxDevice → RxDevice
  | 0, dev => dev
  | rounds+1, dev => receiveLoop config rounds (dev.receiveChunk bytes config)

def receiveData (config : Ax5043Config) (rounds : Nat) (dev : RxDevice) : RxDevice :=
  receiveLoop bytes config rounds
    ⟨0,0,fun i => if i < 64 then 0 else dev.rxBuff i,0,[]⟩

end RxDevice

/-- The indices that `rf433_rx_callback` and the handler it calls look at before they parse:
the handlers of a brace and of `A`, `B` and `C` look for the end of the text. `rx_len-1` is an
`int`, and only `NormalSolve` looks there, after a line feed. -/
def callbackReads (buffer : Nat → UInt8) (len : UInt8) : List Int :=
  1 :: if buffer 1 = 0x7b then
      if buffer len.toNat = 0x0a then [(len.toNat : Int),(len.toNat : Int)-1] else [(len.toNat : Int)]
    else if buffer 1 = 0x41 ∨ buffer 1 = 0x42 ∨ buffer 1 = 0x43 then [(len.toNat : Int)]
    else []

/-- What is stored lies in `RXBuff`, and so does what is looked at if the callback is called. -/
structure InBounds (dev : RxDevice) : Prop where
  stores : ∀ i ∈ dev.stores, i < 64
  len : dev.rxLen ≠ 0 → dev.rxLen ≤ 64
  reads : dev.rxLen ≠ 0 → ∀ i ∈ callbackReads dev.rxBuff (dev.rxLen-1), 0 ≤ i ∧ i < 64

/-- A chunk of the FIFO: its command, the length it announces, and where its payload starts. -/
structure RxChunk where
  cmd : UInt8
  length : UInt8
  body : Nat
  deriving DecidableEq, Repr

/-- A length code of 7 says that the length stands in a byte of its own. -/
def chunkAt (bytes : Nat → UInt8) (pos : Nat) : RxChunk :=
  if (bytes pos &&& 0xe0) >>> 5 = 7 then ⟨bytes pos &&& 0x1f,bytes (pos+1),pos+2⟩
  else ⟨bytes pos &&& 0x1f,(bytes pos &&& 0xe0) >>> 5,pos+1⟩

def RxChunk.next (c : RxChunk) : Nat := c.body+c.length.toNat

def RxChunk.isData (c : RxChunk) : Bool := c.cmd == fifocmdData && c.length != 0

def chunks (bytes : Nat → UInt8) : (rounds pos : Nat) → List RxChunk
  | 0, _ => []
  | rounds+1, pos => chunkAt bytes pos :: chunks bytes rounds (chunkAt bytes pos).next

def dataChunks (bytes : Nat → UInt8) (rounds : Nat) : List RxChunk :=
  (chunks bytes rounds 0).filter RxChunk.isData

/-- What a chunk does to the device, whatever its command: the device ends at its end. -/
def RxChunk.receive (bytes : Nat → UInt8) (config : Ax5043Config) (dev : RxDevice) (c : RxChunk) :
    RxDevice :=
  if c.isData then
    { dev with
      rxLen := c.length-1
      rxBuff i := if i < (c.length-1).toNat then bytes (c.body+1+i) else dev.rxBuff i
      pos := c.next
      stores := dev.stores ++ List.range (c.length-1).toNat }
  else if c.cmd = fifocmdRssi ∧ c.length = 1 then
    { dev with
      ubRssi := (bytes c.body).toInt8.toInt-config.axradioPhyRssioffset.toInt
      pos := c.next }
  else { dev with pos := c.next }

section Chunk
variable (bytes : Nat → UInt8) (config : Ax5043Config) (dev : RxDevice)

theorem dropLoop_eq {fuel : Nat} {n : UInt8} (hn : n ≠ 0) (hfuel : n.toNat ≤ fuel) :
    dev.dropLoop bytes fuel n = { dev with pos := dev.pos+n.toNat } := by
  have hpred := toNat_pred hn
  induction fuel generalizing n dev with
  | zero => omega
  | succ fuel ih =>
    rw [RxDevice.dropLoop]
    by_cases hlast : n-1 = 0
    · rw [hlast] at hpred
      simp only [hlast,ne_eq,not_true_eq_false,if_false,RxDevice.fifodata]
      rw [← hpred]
      rfl
    · simp only [ne_eq,hlast,not_false_eq_true,if_true]
      rw [ih _ hlast (by omega) (toNat_pred hlast)]
      simp only [RxDevice.fifodata,← hpred,Nat.add_assoc,Nat.add_comm 1]

theorem dropchunk_eq (n : UInt8) : dev.dropchunk bytes n = { dev with pos := dev.pos+n.toNat } := by
  unfold RxDevice.dropchunk
  split
  · rename_i hz
    rw [hz]
    rfl
  · rename_i hn
    have hlt := n.toNat_lt
    exact dropLoop_eq bytes dev hn (by omega)

theorem threeOrDrop_eq (n : UInt8) :
    (if n ≠ 3 then dev.dropchunk bytes n else dev.skipThree bytes) =
      { dev with pos := dev.pos+n.toNat } := by
  by_cases h : n = 3
  · rw [if_neg (Decidable.not_not.mpr h),h]
    rfl
  · rw [if_pos h,dropchunk_eq]

theorem RxChunk.receive_other {c : RxChunk} (hdata : c.isData = false)
    (hrssi : ¬ (c.cmd = fifocmdRssi ∧ c.length = 1)) :
    c.receive bytes config dev = { dev with pos := c.next } := by
  rw [RxChunk.receive,hdata,if_neg hrssi]
  rfl

theorem receiveCase_eq (cmd length : UInt8) :
    dev.receiveCase bytes config cmd length =
      RxChunk.receive bytes config dev ⟨cmd,length,dev.pos⟩ := by
  have hdrop : cmd ≠ fifocmdData → ¬ (cmd = fifocmdRssi ∧ length = 1) →
      ({ dev with pos := dev.pos+length.toNat } : RxDevice) =
        RxChunk.receive bytes config dev ⟨cmd,length,dev.pos⟩ := by
    intro hdata hrssi
    rw [RxChunk.receive_other bytes config dev (by simp [RxChunk.isData,hdata]) hrssi]
    rfl
  unfold RxDevice.receiveCase
  by_cases hdata : cmd = fifocmdData
  · rw [if_pos hdata,hdata]
    by_cases hz : length = 0
    · have hrssi : ¬ (fifocmdData = fifocmdRssi ∧ (0 : UInt8) = 1) := by decide
      rw [if_pos hz,hz,RxChunk.receive_other bytes config dev (by simp [RxChunk.isData]) hrssi]
      rfl
    · have hpos : dev.pos+1+(length-1).toNat = dev.pos+length.toNat := by
        have hpred := toNat_pred hz
        omega
      rw [if_neg hz,RxChunk.receive,if_pos (by simp [RxChunk.isData,hz])]
      simp only [RxDevice.fifodata,RxDevice.spiReadData,hpos,RxChunk.next]
  · rw [if_neg hdata]
    by_cases hoffs : cmd = fifocmdRffreqoffs
    · have hrssi : ¬ (cmd = fifocmdRssi ∧ length = 1) := fun h => absurd (hoffs ▸ h.1) (by decide)
      rw [if_pos hoffs,threeOrDrop_eq,hdrop hdata hrssi]
    · rw [if_neg hoffs]
      by_cases hrssi : cmd = fifocmdRssi
      · rw [if_pos hrssi]
        by_cases hone : length = 1
        · rw [if_neg (Decidable.not_not.mpr hone),RxChunk.receive,if_neg (by simp [RxChunk.isData,hdata]),
            if_pos ⟨hrssi,hone⟩,hone]
          rfl
        · rw [if_pos hone,dropchunk_eq,hdrop hdata fun h => hone h.2]
      · have hno : ¬ (cmd = fifocmdRssi ∧ length = 1) := fun h => hrssi h.1
        rw [if_neg hrssi]
        by_cases htimer : cmd = fifocmdTimer
        · rw [if_pos htimer,threeOrDrop_eq,hdrop hdata hno]
        · rw [if_neg htimer]
          by_cases hant : cmd = fifocmdAntrssi
          · rw [if_pos hant]
            by_cases hz : length = 0
            · rw [if_pos hz,← hdrop hdata hno,hz]
              rfl
            · rw [if_neg hz,dropchunk_eq,← hdrop hdata hno]
              have hpred := toNat_pred hz
              simp only [RxDevice.fifodata,Nat.add_assoc,Nat.add_comm 1,hpred]
          · rw [if_neg hant,dropchunk_eq,hdrop hdata hno]

theorem receiveChunk_eq :
    dev.receiveChunk bytes config = (chunkAt bytes dev.pos).receive bytes config dev := by
  unfold RxDevice.receiveChunk chunkAt RxDevice.fifodata
  dsimp only
  split
  · rw [receiveCase_eq]
    rfl
  · rw [receiveCase_eq]
    rfl

theorem receiveLoop_eq (rounds : Nat) :
    dev.receiveLoop bytes config rounds =
      (chunks bytes rounds dev.pos).foldl (RxChunk.receive bytes config) dev := by
  induction rounds generalizing dev with
  | zero => rfl
  | succ rounds ih =>
    have hpos : ((chunkAt bytes dev.pos).receive bytes config dev).pos =
        (chunkAt bytes dev.pos).next := by
      unfold RxChunk.receive
      split
      · rfl
      · split <;> rfl
    rw [RxDevice.receiveLoop,receiveChunk_eq,ih,hpos]
    rfl

theorem receive_stores (cs : List RxChunk) :
    (cs.foldl (RxChunk.receive bytes config) dev).stores = dev.stores ++
      (cs.filter RxChunk.isData).flatMap fun c => List.range (c.length-1).toNat := by
  induction cs generalizing dev with
  | nil => simp
  | cons c cs ih =>
    rw [List.foldl_cons,ih]
    by_cases hdata : c.isData = true
    · rw [List.filter_cons_of_pos hdata,List.flatMap_cons,← List.append_assoc,RxChunk.receive,
        if_pos hdata]
    · rw [List.filter_cons_of_neg hdata,RxChunk.receive,if_neg hdata]
      split <;> rfl

theorem receive_rxLen (cs : List RxChunk) :
    (cs.foldl (RxChunk.receive bytes config) dev).rxLen =
      (cs.filter RxChunk.isData).getLast?.elim dev.rxLen fun c => c.length-1 := by
  refine foldl_lastSet RxDevice.rxLen RxChunk.isData _ (fun dev c => ?_) dev cs
  unfold RxChunk.receive
  by_cases hdata : c.isData = true
  · rw [if_pos hdata,if_pos hdata]
  · rw [if_neg hdata,if_neg hdata]
    split <;> rfl

theorem receive_rxBuff (cs : List RxChunk) (i : Nat) :
    (cs.foldl (RxChunk.receive bytes config) dev).rxBuff i =
      ((cs.filter RxChunk.isData).filter fun c => i < (c.length-1).toNat).getLast?.elim
        (dev.rxBuff i) fun c => bytes (c.body+1+i) := by
  rw [List.filter_filter]
  refine foldl_lastSet (fun dev => dev.rxBuff i) _ _ (fun dev c => ?_) dev cs
  unfold RxChunk.receive
  by_cases hdata : c.isData = true
  · simp only [hdata,Bool.and_true,if_true,decide_eq_true_eq]
  · have hnot : ¬ (decide (i < (c.length-1).toNat) && c.isData) = true := by simp [hdata]
    rw [if_neg hdata,if_neg hnot]
    split <;> rfl

/-- The device when the loop ends, by the data chunks that it has read. -/
theorem receiveData_stores (rounds : Nat) :
    (dev.receiveData bytes config rounds).stores =
      (dataChunks bytes rounds).flatMap fun c => List.range (c.length-1).toNat := by
  rw [RxDevice.receiveData,receiveLoop_eq,receive_stores]
  rfl

theorem receiveData_rxLen (rounds : Nat) :
    (dev.receiveData bytes config rounds).rxLen =
      (dataChunks bytes rounds).getLast?.elim 0 fun c => c.length-1 := by
  rw [RxDevice.receiveData,receiveLoop_eq,receive_rxLen]
  rfl

theorem receiveData_rxBuff (rounds : Nat) {i : Nat} (hi : i < 64) :
    (dev.receiveData bytes config rounds).rxBuff i =
      ((dataChunks bytes rounds).filter fun c => i < (c.length-1).toNat).getLast?.elim 0
        fun c => bytes (c.body+1+i) := by
  rw [RxDevice.receiveData,receiveLoop_eq,receive_rxBuff]
  simp only [if_pos hi]
  rfl

end Chunk

/-- The last data chunk holds a line feed and nothing else, and what an earlier one has left
behind it begins like a normal frame. -/
def LoneLineFeed (bytes : Nat → UInt8) (ds : List RxChunk) : Prop :=
  ∃ c, ds.getLast? = some c ∧ c.length = 2 ∧ bytes (c.body+1) = 0x0a ∧
    ∃ b, (ds.filter fun c => 3 ≤ c.length).getLast? = some b ∧ bytes (b.body+2) = 0x7b

theorem mem_dataChunks {bytes : Nat → UInt8} {rounds : Nat} {c : RxChunk}
    (h : c ∈ dataChunks bytes rounds) : c.length ≠ 0 := by
  have hdata := (List.mem_filter.mp h).2
  simp only [RxChunk.isData,Bool.and_eq_true,bne_iff_ne] at hdata
  exact hdata.2

/-- Of the three reads only the one before the end can leave the buffer. -/
theorem callbackReads_in_bounds_iff (buffer : Nat → UInt8) {len : UInt8} (hlen : len.toNat < 64) :
    (∀ i ∈ callbackReads buffer len, 0 ≤ i ∧ i < 64) ↔
      ¬ (len = 0 ∧ buffer 1 = 0x7b ∧ buffer 0 = 0x0a) := by
  have hone : ∀ i : Int, i = 1 ∨ i = len.toNat → 0 ≤ i ∧ i < 64 := by
    rintro i (rfl | rfl)
    · decide
    · omega
  unfold callbackReads
  by_cases hbrace : buffer 1 = 0x7b
  · by_cases hfeed : buffer len.toNat = 0x0a
    · simp only [if_pos hbrace,if_pos hfeed]
      constructor
      · rintro h ⟨rfl,_,_⟩
        exact absurd (h (-1) (by simp)).1 (by decide)
      · intro h i hi
        have hpos : len.toNat ≠ 0 := by
          intro hz
          refine h ⟨UInt8.toNat_inj.mp hz,hbrace,?_⟩
          rw [← hfeed,hz]
        simp only [List.mem_cons,List.not_mem_nil,or_false] at hi
        rcases hi with hi | hi | rfl
        · exact hone i (.inl hi)
        · exact hone i (.inr hi)
        · omega
    · simp only [if_pos hbrace,if_neg hfeed]
      refine iff_of_true (fun i hi => hone i (by simpa using hi)) ?_
      rintro ⟨rfl,_,hzero⟩
      exact hfeed hzero
  · rw [if_neg hbrace]
    refine iff_of_true (fun i hi => hone i ?_) fun h => hbrace h.2.1
    split at hi
    · simpa using hi
    · exact .inl (by simpa using hi)

section Bounds
variable {bytes : Nat → UInt8} {ds : List RxChunk} (hne : ∀ c ∈ ds, c.length ≠ 0)
include hne

theorem stores_in_bounds_iff :
    (∀ i ∈ ds.flatMap fun c => List.range (c.length-1).toNat, i < 64) ↔ ∀ c ∈ ds, c.length ≤ 65 := by
  have hbound : ∀ c ∈ ds, c.length ≤ 65 ↔ (c.length-1).toNat ≤ 64 := by
    intro c hc
    have hpred := toNat_pred (hne c hc)
    rw [UInt8.le_iff_toNat_le,← hpred]
    exact Nat.add_le_add_iff_right (n := 1)
  constructor
  · intro h c hc
    rw [hbound c hc]
    refine Nat.le_of_not_lt fun hlong => ?_
    exact absurd (h 64 (List.mem_flatMap.mpr ⟨c,hc,List.mem_range.mpr hlong⟩)) (Nat.lt_irrefl 64)
  · intro h i hi
    obtain ⟨c,hc,hi⟩ := List.mem_flatMap.mp hi
    exact Nat.lt_of_lt_of_le (List.mem_range.mp hi) ((hbound c hc).mp (h c hc))

/-- The three bytes that send `NormalSolve` to index -1, by the data chunks that put them there. -/
theorem loneLineFeed_iff :
    LoneLineFeed bytes ds ↔
      ds.getLast?.elim 0 (fun c => c.length-1) = 1 ∧
      (ds.filter fun c => 1 < (c.length-1).toNat).getLast?.elim 0 (fun c => bytes (c.body+1+1)) = 0x7b ∧
      (ds.filter fun c => 0 < (c.length-1).toNat).getLast?.elim 0 (fun c => bytes (c.body+1+0)) = 0x0a := by
  have hfilter : (ds.filter fun c => 1 < (c.length-1).toNat) = ds.filter fun c => 3 ≤ c.length := by
    refine List.filter_congr fun c hc => ?_
    have hpred := toNat_pred (hne c hc)
    rw [decide_eq_decide,UInt8.le_iff_toNat_le,← hpred]
    exact Nat.succ_le_succ_iff.symm
  have hfirst : ∀ c, ds.getLast? = some c → c.length = 2 →
      (ds.filter fun c => 0 < (c.length-1).toNat).getLast? = some c := by
    intro c hlast hlen
    obtain ⟨cs,rfl⟩ := List.getLast?_eq_some_iff.mp hlast
    rw [List.filter_append,List.filter_cons_of_pos (by simp [hlen])]
    simp
  rw [hfilter]
  constructor
  · rintro ⟨c,hlast,hlen,hfeed,b,hb,hbrace⟩
    rw [hlast,hb,hfirst c hlast hlen]
    refine ⟨?_,hbrace,hfeed⟩
    change c.length-1 = 1
    rw [hlen]
    rfl
  · rintro ⟨hlen,hbrace,hfeed⟩
    cases hlast : ds.getLast? with
    | none =>
      rw [hlast] at hlen
      exact absurd hlen (by decide)
    | some c =>
      rw [hlast] at hlen
      have hpred := toNat_pred (hne c (List.mem_of_getLast? hlast))
      have htwo : c.length = 2 := by
        rw [show c.length-1 = 1 from hlen] at hpred
        exact UInt8.toNat_inj.mp hpred.symm
      rw [hfirst c hlast htwo] at hfeed
      cases hb : (ds.filter fun c => 3 ≤ c.length).getLast? with
      | none =>
        have hzero : (0 : UInt8) = 0x7b := by rwa [hb] at hbrace
        exact absurd hzero (by decide)
      | some b =>
        rw [hb] at hbrace
        exact ⟨c,hlast,htwo,hfeed,b,hb,hbrace⟩

end Bounds

/-- `ReceiveData` and the callback stay inside `RXBuff` exactly when every data chunk fits
into it, and no lone line feed sends `NormalSolve` to the byte before it. -/
theorem receive_in_bounds_iff (bytes : Nat → UInt8) (rounds : Nat) (dev : RxDevice) :
    InBounds (dev.receiveData bytes rf433ConfigInit rounds) ↔
      (∀ c ∈ dataChunks bytes rounds, c.length ≤ 65) ∧
        ¬ LoneLineFeed bytes (dataChunks bytes rounds) := by
  have hne : ∀ c ∈ dataChunks bytes rounds, c.length ≠ 0 := fun c hc => mem_dataChunks hc
  have hlone : LoneLineFeed bytes (dataChunks bytes rounds) ↔
      (dev.receiveData bytes rf433ConfigInit rounds).rxLen = 1 ∧
      (dev.receiveData bytes rf433ConfigInit rounds).rxBuff 1 = 0x7b ∧
      (dev.receiveData bytes rf433ConfigInit rounds).rxBuff 0 = 0x0a := by
    rw [loneLineFeed_iff hne,receiveData_rxLen,
      receiveData_rxBuff bytes rf433ConfigInit dev rounds (show 1 < 64 by decide),
      receiveData_rxBuff bytes rf433ConfigInit dev rounds (show 0 < 64 by decide)]
  have hstores : (∀ i ∈ (dev.receiveData bytes rf433ConfigInit rounds).stores, i < 64) ↔
      ∀ c ∈ dataChunks bytes rounds, c.length ≤ 65 := by
    rw [receiveData_stores]
    exact stores_in_bounds_iff hne
  have hlen : (∀ c ∈ dataChunks bytes rounds, c.length ≤ 65) →
      (dev.receiveData bytes rf433ConfigInit rounds).rxLen ≤ 64 := by
    intro hfit
    rw [receiveData_rxLen]
    cases hlast : (dataChunks bytes rounds).getLast? with
    | none => exact UInt8.zero_le
    | some c =>
      have hc := List.mem_of_getLast? hlast
      have hpred := toNat_pred (hne c hc)
      have hle := UInt8.le_iff_toNat_le.mp (hfit c hc)
      rw [← hpred] at hle
      exact UInt8.le_iff_toNat_le.mpr (Nat.le_of_succ_le_succ hle)
  generalize dev.receiveData bytes rf433ConfigInit rounds = dev' at hlone hstores hlen ⊢
  rw [← hstores,hlone]
  constructor
  · intro h
    refine ⟨h.stores,?_⟩
    rintro ⟨hone,hbrace,hfeed⟩
    have hreads := h.reads (by rw [hone]; decide)
    rw [hone] at hreads
    exact (callbackReads_in_bounds_iff dev'.rxBuff (by decide)).mp hreads ⟨rfl,hbrace,hfeed⟩
  · rintro ⟨hfit,hno⟩
    have hle := hlen (hstores.mp hfit)
    refine ⟨hfit,fun _ => hle,fun hne0 => ?_⟩
    have hpred := toNat_pred hne0
    have hlt : (dev'.rxLen-1).toNat < 64 := by
      have hnat := UInt8.le_iff_toNat_le.mp hle
      rw [← hpred] at hnat
      exact hnat
    rw [callbackReads_in_bounds_iff dev'.rxBuff hlt]
    rintro ⟨hzero,hbrace,hfeed⟩
    refine hno ⟨?_,hbrace,hfeed⟩
    rw [hzero] at hpred
    exact UInt8.toNat_inj.mp hpred.symm

/-- A data chunk that announces 66 bytes: one for the flags and 65 for the buffer. -/
def longChunk (n : Nat) : UInt8 := if n = 0 then 0xe1 else if n = 1 then 66 else 0

theorem receive_counterexample :
    ¬ ∀ (bytes : Nat → UInt8) (rounds : Nat) (dev : RxDevice),
      InBounds (dev.receiveData bytes rf433ConfigInit rounds) := by
  intro hall
  have hbounds := hall longChunk 1 ⟨0,0,fun _ => 0,0,[]⟩
  exact absurd (hbounds.stores 64 (by decide)) (by decide)

end GatewayF411
