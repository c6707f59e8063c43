import Mathlib.Data.List.Forall2
import GatewayF411.UartService

/-!
Frames encoded by `wifi_uart_write_frame` arrive through `wifi_uart_service` one by one and
in order, however the bytes are cut into pieces. The receiver always looks at the start of a
frame, so it never has to search for one.
-/

set_option autoImplicit false

namespace GatewayF411
open Cells

/-- The arguments of `wifi_uart_write_frame` and the transmit buffer it finds. -/
structure TxFrame where
  frType : UInt8
  frVer : UInt8
  len : UInt16
  txBuf : Nat → UInt8
  fits : len.toNat ≤ wifirUartSendBufLmt

def TxFrame.sent (f : TxFrame) : List UInt8 := (wifiUartWriteFrame f.frType f.frVer f.len f.txBuf).1

def TxFrame.image (f : TxFrame) : Nat → UInt8 :=
  (wifiUartWriteFrame f.frType f.frVer f.len f.txBuf).2

/-- The call finds the type, version, length and data of the frame at its offset. -/
structure Carries (call : HandleCall) (f : TxFrame) : Prop where
  type : call.buf (call.offset+frameType) = f.frType
  version : call.buf (call.offset+protocolVersion) = f.frVer
  length : (call.buf (call.offset+lengthHigh)).toNat*256+
    (call.buf (call.offset+lengthLow)).toNat = f.len.toNat
  data : ∀ i, i < f.len.toNat → call.buf (call.offset+dataStart+i) = f.txBuf (dataStart+i)

def stream (frames : List TxFrame) : List UInt8 := (frames.map TxFrame.sent).flatten

theorem getCheckSum_congr {pack pack' : Nat → UInt8} {n : Nat} (h : ∀ i, i < n → pack i = pack' i) :
    getCheckSum pack n = getCheckSum pack' n := by
  induction n with
  | zero => rfl
  | succ n ih => rw [getCheckSum,getCheckSum,ih fun i hi => h i (by omega),h n (by omega)]

section Frame
variable (f : TxFrame)

theorem TxFrame.total : (f.len+UInt16.ofNat protocolHead).toNat = f.len.toNat+7 := by
  have hfits : f.len.toNat ≤ 4096 := f.fits
  rw [UInt16.toNat_add]
  exact Nat.mod_eq_of_lt (by simp [protocolHead]; omega)

theorem TxFrame.last : (f.len+UInt16.ofNat protocolHead-1).toNat = f.len.toNat+6 := by
  have htotal := f.total
  have hle : (1 : UInt16) ≤ f.len+UInt16.ofNat protocolHead := by
    rw [UInt16.le_iff_toNat_le,htotal]
    simp
  rw [UInt16.toNat_sub_of_le _ _ hle,htotal]
  rfl

theorem TxFrame.sent_eq : f.sent = slice f.image 0 (f.len.toNat+7) := by
  rw [← f.total]
  rfl

theorem TxFrame.sent_length : f.sent.length = f.len.toNat+7 := by simp [f.sent_eq]

theorem TxFrame.image_eq : f.image = Function.update (writeHead f.frType f.frVer f.len f.txBuf)
    (f.len.toNat+6) (getCheckSum (writeHead f.frType f.frVer f.len f.txBuf) (f.len.toNat+6)) := by
  rw [← f.last]
  rfl

theorem TxFrame.image_head {i : Nat} (h : i < f.len.toNat+6) :
    f.image i = writeHead f.frType f.frVer f.len f.txBuf i := by
  rw [f.image_eq,Function.update_of_ne (by omega)]

theorem TxFrame.image_sum : f.image (f.len.toNat+6) = getCheckSum f.image (f.len.toNat+6) := by
  have hsum : getCheckSum f.image (f.len.toNat+6) =
      getCheckSum (writeHead f.frType f.frVer f.len f.txBuf) (f.len.toNat+6) :=
    getCheckSum_congr fun i hi => f.image_head hi
  rw [hsum,f.image_eq,Function.update_self]

theorem TxFrame.image_first : f.image headFirst = frameFirst := by
  rw [f.image_head (by simp [headFirst])]
  simp [writeHead,headFirst,headSecond,protocolVersion,frameType,lengthHigh,lengthLow,frameFirst]

theorem TxFrame.image_second : f.image headSecond = frameSecond := by
  rw [f.image_head (by simp [headSecond])]
  simp [writeHead,headSecond,protocolVersion,frameType,lengthHigh,lengthLow,frameSecond]

theorem TxFrame.image_version : f.image protocolVersion = f.frVer := by
  rw [f.image_head (by simp [protocolVersion])]
  simp [writeHead,protocolVersion,frameType,lengthHigh,lengthLow]

theorem TxFrame.image_type : f.image frameType = f.frType := by
  rw [f.image_head (by simp [frameType])]
  simp [writeHead,frameType,lengthHigh,lengthLow]

theorem TxFrame.image_length : (f.image lengthHigh).toNat*256+(f.image lengthLow).toNat =
    f.len.toNat := by
  have hlt := f.len.toNat_lt
  have hlow : ∀ n : Nat, n &&& 255 = n % 256 := fun n => Nat.and_two_pow_sub_one_eq_mod n 8
  rw [f.image_head (by simp [lengthHigh]),f.image_head (by simp [lengthLow])]
  simp [writeHead,lengthHigh,lengthLow,Nat.shiftRight_eq_div_pow,hlow]
  omega

theorem TxFrame.image_data {i : Nat} (h : i < f.len.toNat) :
    f.image (dataStart+i) = f.txBuf (dataStart+i) := by
  rw [f.image_head (by simp only [dataStart]; omega)]
  simp only [writeHead,headFirst,headSecond,protocolVersion,frameType,lengthHigh,lengthLow,dataStart]
  repeat rw [Function.update_of_ne (by omega)]

end Frame

theorem stream_cons (f : TxFrame) (fs : List TxFrame) : stream (f :: fs) = f.sent ++ stream fs := rfl

/-- The bytes that have arrived of a frame stand in the buffer from its first one on. -/
theorem arrived_bytes {buf : Nat → UInt8} {offset rxIn : Nat} {rest : List UInt8} {f : TxFrame}
    {fs : List TxFrame} (h : slice buf offset rxIn ++ rest = stream (f :: fs)) {i : Nat}
    (hin : i < rxIn-offset) (hlen : i < f.len.toNat+7) : buf (offset+i) = f.image i := by
  have hbyte : (slice buf offset rxIn ++ rest)[i]? = (stream (f :: fs))[i]? := by rw [h]
  rw [stream_cons,f.sent_eq,List.getElem?_append_left (by simpa using hin),
    List.getElem?_append_left (by simpa using hlen),slice_getElem? hin,
    slice_getElem? (by omega),Nat.zero_add] at hbyte
  exact Option.some.inj hbyte

section Complete
variable {buf : Nat → UInt8} {offset : Nat} {f : TxFrame}
  (h : ∀ i, i < f.len.toNat+7 → buf (offset+i) = f.image i)
include h

theorem complete_carries : Carries ⟨offset,buf⟩ f where
  type := by
    dsimp only
    rw [h frameType (by simp [frameType])]
    exact f.image_type
  version := by
    dsimp only
    rw [h protocolVersion (by simp [protocolVersion])]
    exact f.image_version
  length := by
    dsimp only
    rw [h lengthHigh (by simp [lengthHigh]),h lengthLow (by simp [lengthLow])]
    exact f.image_length
  data := by
    intro i hi
    dsimp only
    rw [Nat.add_assoc,h (dataStart+i) (by simp only [dataStart]; omega)]
    exact f.image_data hi

theorem complete_sum :
    getCheckSum (fun i => buf (offset+i)) (f.len.toNat+6) = buf (offset+(f.len.toNat+7)-1) := by
  have hsum : getCheckSum (fun i => buf (offset+i)) (f.len.toNat+6) =
      getCheckSum f.image (f.len.toNat+6) := getCheckSum_congr fun i hi => h i (by omega)
  have hidx : offset+(f.len.toNat+7)-1 = offset+(f.len.toNat+6) := by omega
  rw [hsum,hidx,h _ (by omega),f.image_sum]

theorem complete_slice : slice buf offset (offset+(f.len.toNat+7)) = f.sent := by
  have hshift : slice (fun i => buf (offset+i)) 0 (f.len.toNat+7) =
      slice buf offset (offset+(f.len.toNat+7)) := slice_shift offset
  rw [← hshift,f.sent_eq]
  exact slice_congr fun i _ hi => h i hi

theorem complete_rest {rxIn : Nat} {rest : List UInt8} {fs : List TxFrame}
    (hwhole : f.len.toNat+7 ≤ rxIn-offset) (hbytes : slice buf offset rxIn ++ rest = stream (f :: fs)) :
    slice buf (offset+(f.len.toNat+7)) rxIn ++ rest = stream fs := by
  rw [← slice_append (b := offset+(f.len.toNat+7)) (by omega) (by omega),complete_slice h,stream_cons,
    List.append_assoc] at hbytes
  exact List.append_cancel_left hbytes

end Complete

/-- What is left when the loop stops: nothing, or a frame that has not arrived whole. -/
def Incomplete (fs : List TxFrame) (n : Nat) : Prop :=
  ∀ f, fs.head? = some f → n < f.len.toNat+7

/-- One pass of the loop at an offset where the head of the frame `f` has arrived. -/
theorem parseLoop_head {buf : Nat → UInt8} {rxIn offset : Nat} (f : TxFrame)
    (hhead : offset+7 ≤ rxIn) (hbyte : ∀ i, i < 7 → buf (offset+i) = f.image i) (fuel : Nat) :
    parseLoop buf rxIn (fuel+1) offset =
      if rxIn-offset < f.len.toNat+7 then some ([],offset)
      else if getCheckSum (fun i => buf (offset+i)) (f.len.toNat+6) ≠
        buf (offset+(f.len.toNat+7)-1) then parseLoop buf rxIn fuel (offset+3)
      else (parseLoop buf rxIn fuel (offset+(f.len.toNat+7))).map
        fun r => (⟨offset,buf⟩ :: r.1,r.2) := by
  have hfits : f.len.toNat ≤ 4096 := f.fits
  have hlength : rxValueLen buf offset = f.len.toNat+7 := by
    have hfield := f.image_length
    rw [rxValueLen,hbyte lengthHigh (by decide),hbyte lengthLow (by decide)]
    simp only [protocolHead]
    omega
  have hmod : (f.len.toNat+7+65535) % 65536 = f.len.toNat+6 := by omega
  have hsize : ¬ processBufSize < f.len.toNat+7 := by
    simp only [processBufSize,protocolHead,wifiDataProcessLmt]
    omega
  rw [parseLoop,if_neg (by simp only [protocolHead]; omega),hbyte headFirst (by decide),
    hbyte headSecond (by decide),f.image_first,f.image_second]
  simp only [ne_eq,not_true,if_false,hlength,hmod,hsize]

/-- From the start of a frame the loop hands over the frames that have arrived whole. -/
theorem parseLoop_frames {buf : Nat → UInt8} {rxIn : Nat} {rest : List UInt8} (fs : List TxFrame) :
    ∀ (fuel offset : Nat), offset ≤ rxIn → rxIn-offset < fuel →
      slice buf offset rxIn ++ rest = stream fs →
      ∃ calls offset' k, parseLoop buf rxIn fuel offset = some (calls,offset') ∧
        offset' ≤ rxIn ∧ List.Forall₂ Carries calls (fs.take k) ∧
        slice buf offset' rxIn ++ rest = stream (fs.drop k) ∧
        Incomplete (fs.drop k) (rxIn-offset') := by
  induction fs with
  | nil =>
    intro fuel offset hle hfuel hbytes
    have hlen := congrArg List.length hbytes
    simp only [List.length_append,slice_length,stream,List.map_nil,List.flatten_nil,
      List.length_nil] at hlen
    obtain ⟨fuel,rfl⟩ : ∃ n, fuel = n+1 := ⟨fuel-1,by omega⟩
    refine ⟨[],offset,0,?_,hle,.nil,hbytes,by simp [Incomplete]⟩
    rw [parseLoop,if_pos (by simp only [protocolHead]; omega)]
  | cons f fs ih =>
    intro fuel offset hle hfuel hbytes
    obtain ⟨fuel,rfl⟩ : ∃ n, fuel = n+1 := ⟨fuel-1,by omega⟩
    have hstop : ∀ n, n < f.len.toNat+7 → Incomplete (f :: fs) n := by
      intro n hn f' hf'
      simp only [List.head?_cons,Option.some.injEq] at hf'
      rw [← hf']
      exact hn
    by_cases hhead : rxIn-offset < protocolHead
    · refine ⟨[],offset,0,by rw [parseLoop,if_pos hhead],hle,.nil,hbytes,hstop _ ?_⟩
      simp only [protocolHead] at hhead
      omega
    · simp only [protocolHead] at hhead
      rw [parseLoop_head f (by omega) (fun i hi => arrived_bytes hbytes (by omega) (by omega)) fuel]
      by_cases hwhole : rxIn-offset < f.len.toNat+7
      · exact ⟨[],offset,0,if_pos hwhole,hle,.nil,hbytes,hstop _ hwhole⟩
      · have hall : ∀ i, i < f.len.toNat+7 → buf (offset+i) = f.image i :=
          fun i hi => arrived_bytes hbytes (by omega) hi
        have hrest := complete_rest hall (Nat.le_of_not_lt hwhole) hbytes
        obtain ⟨calls,offset',k,hloop,hle',hcalls,hleft,hcut⟩ :=
          ih fuel (offset+(f.len.toNat+7)) (by omega) (by omega) hrest
        refine ⟨⟨offset,buf⟩ :: calls,offset',k+1,?_,hle',.cons (complete_carries hall) hcalls,
          hleft,hcut⟩
        rw [if_neg hwhole,if_neg (by simpa using complete_sum hall),hloop]
        rfl

/-- A forward copy to lower addresses reads every cell before it overwrites it. -/
theorem copyUp_apply {dest src : Nat} (h : dest ≤ src) (n : Nat) (mem : Nat → UInt8) (a : Nat) :
    copyUp dest src n mem a = if dest ≤ a ∧ a < dest+n then mem (src+(a-dest)) else mem a := by
  induction n generalizing a with
  | zero => rw [copyUp,if_neg (by omega)]
  | succ n ih =>
    rw [copyUp]
    by_cases ha : a = dest+n
    · rw [ha,Function.update_self,ih,if_neg (by omega),if_pos (by omega)]
      congr 1
      omega
    · rw [Function.update_of_ne ha,ih]
      by_cases hin : dest ≤ a ∧ a < dest+n
      · rw [if_pos hin,if_pos (by omega)]
      · rw [if_neg hin,if_neg (by omega)]

theorem myMemcpy_slice (src n : Nat) (mem : Nat → UInt8) :
    slice (myMemcpy 0 src n mem) 0 n = slice mem src (src+n) := by
  have hshift : slice (fun i => mem (src+i)) 0 n = slice mem src (src+n) := slice_shift src
  rw [myMemcpy,if_pos (.inl (Nat.zero_le _)),← hshift]
  refine slice_congr fun i _ hi => ?_
  rw [copyUp_apply (Nat.zero_le _),if_pos (by omega),Nat.sub_zero]

theorem unread_of_not_hasData {r : UartRing} (h : r.hasData = false) : r.unread = [] := by
  have heq : r.queueIn = r.queueOut := by simpa [UartRing.hasData] using h
  simp [UartRing.unread,heq,slice]

theorem readLoop_spec (n : Nat) (s : UartPort) (h : s.ring.Inv) (hin : s.rxIn ≤ processBufSize) :
    (readLoop n s).ring.Inv ∧ (readLoop n s).rxIn ≤ processBufSize ∧
    (readLoop n s).handled = s.handled ∧
    slice (readLoop n s).processBuf 0 (readLoop n s).rxIn ++ (readLoop n s).ring.unread =
      slice s.processBuf 0 s.rxIn ++ s.ring.unread ∧
    (processBufSize-s.rxIn ≤ n →
      (readLoop n s).rxIn = processBufSize ∨ (readLoop n s).ring.unread = []) := by
  induction n generalizing s with
  | zero => exact ⟨h,hin,rfl,rfl,fun hn => .inl (by simp only [readLoop]; omega)⟩
  | succ n ih =>
    rw [readLoop]
    by_cases hgo : s.rxIn < processBufSize ∧ s.ring.hasData = true
    · have hring : s.ring.readByte.2.Inv := by
        have hstep := ringStep_inv s.ring .read h
        simpa only [ringStep,hgo.2,if_true] using hstep
      obtain ⟨hinv,hbound,hhandled,hbytes,hfull⟩ := ih { s with
        ring := s.ring.readByte.2
        processBuf := Function.update s.processBuf s.rxIn s.ring.readByte.1
        rxIn := s.rxIn+1 } hring hgo.1
      rw [if_pos hgo]
      refine ⟨hinv,hbound,hhandled,?_,fun hn => hfull (by simp only; omega)⟩
      rw [hbytes,unread_read h hgo.2]
      dsimp only
      rw [slice_snoc (Nat.zero_le _),Function.update_self,slice_update (.inr (Nat.le_refl _)),
        List.append_assoc]
      rfl
    · rw [if_neg hgo]
      refine ⟨h,hin,rfl,rfl,fun _ => ?_⟩
      by_cases hlt : s.rxIn < processBufSize
      · exact .inr (unread_of_not_hasData (by simpa using fun hd => hgo ⟨hlt,hd⟩))
      · exact .inl (by omega)

/-- The frames in `done` have been handed over; the bytes of those in `todo` stand in the
process buffer, then in the ring, and the rest of them is still coming. -/
structure Receives (s : UartPort) (done todo : List TxFrame) (coming : List UInt8) : Prop where
  ring : s.ring.Inv
  bound : s.rxIn ≤ processBufSize
  handled : List.Forall₂ Carries s.handled done
  bytes : slice s.processBuf 0 s.rxIn ++ (s.ring.unread ++ coming) = stream todo

theorem Incomplete.nil_of_stream {fs : List TxFrame} {bytes : List UInt8} (h : Incomplete fs bytes.length)
    (hbytes : bytes = stream fs) : fs = [] := by
  cases fs with
  | nil => rfl
  | cons f fs =>
    have hlt := h f rfl
    rw [hbytes,stream_cons,List.length_append,f.sent_length] at hlt
    omega

theorem parseFrames_receives {s : UartPort} {done todo : List TxFrame} {coming : List UInt8}
    (h : Receives s done todo coming) :
    ∃ s' k, parseFrames s = some s' ∧ Receives s' (done ++ todo.take k) (todo.drop k) coming ∧
      s'.ring = s.ring ∧ Incomplete (todo.drop k) s'.rxIn := by
  by_cases hhead : s.rxIn < protocolHead
  · refine ⟨s,0,by rw [parseFrames,if_pos hhead],by simpa using h,rfl,fun f _ => ?_⟩
    simp only [protocolHead] at hhead
    omega
  · obtain ⟨calls,offset,k,hloop,hle,hcalls,hleft,hcut⟩ :=
      parseLoop_frames todo (s.rxIn+1) 0 (Nat.zero_le _) (by omega) h.bytes
    have hcopy : slice (if 0 < s.rxIn-offset then myMemcpy 0 offset (s.rxIn-offset) s.processBuf
        else s.processBuf) 0 (s.rxIn-offset) = slice s.processBuf offset s.rxIn := by
      split
      · rw [myMemcpy_slice]
        congr 1
        omega
      · rw [slice_empty (by omega),slice_empty (by omega)]
    have hparse : parseFrames s = some { s with
        handled := s.handled ++ calls
        rxIn := s.rxIn-offset
        processBuf := if 0 < s.rxIn-offset then myMemcpy 0 offset (s.rxIn-offset) s.processBuf
          else s.processBuf } := by
      rw [parseFrames,if_neg hhead,hloop]
      rfl
    refine ⟨_,k,hparse,⟨h.ring,?_,List.rel_append h.handled hcalls,?_⟩,rfl,hcut⟩
    · have hbound := h.bound
      simp only
      omega
    · dsimp only
      rw [hcopy]
      exact hleft

theorem readLoop_receives {s : UartPort} {done todo : List TxFrame} {coming : List UInt8}
    (h : Receives s done todo coming) (n : Nat) : Receives (readLoop n s) done todo coming := by
  obtain ⟨hring,hbound,hhandled,hbytes,_⟩ := readLoop_spec n s h.ring h.bound
  refine ⟨hring,hbound,by rw [hhandled]; exact h.handled,?_⟩
  rw [← List.append_assoc,hbytes,List.append_assoc]
  exact h.bytes

/-- One call hands over whole frames in order, and at least one once all bytes are there. -/
theorem wifiUartService_receives {s : UartPort} {done todo : List TxFrame} {coming : List UInt8}
    (h : Receives s done todo coming) :
    ∃ s' k, wifiUartService s = some s' ∧ Receives s' (done ++ todo.take k) (todo.drop k) coming ∧
      (coming = [] → todo ≠ [] → 0 < k) := by
  obtain ⟨_,_,_,_,hfull⟩ := readLoop_spec (processBufSize-s.rxIn) s h.ring h.bound
  have hread := readLoop_receives h (processBufSize-s.rxIn)
  obtain ⟨s',k,hparse,hrec,hsame,hcut⟩ := parseFrames_receives hread
  refine ⟨s',k,hparse,hrec,fun hcoming hne => ?_⟩
  by_contra hk
  have hzero : k = 0 := by omega
  subst hzero
  subst hcoming
  have hall := hrec.bytes
  have hlen := congrArg List.length (hrec.bytes.trans hread.bytes.symm)
  rw [hsame] at hall hlen
  simp only [List.length_append,slice_length,List.append_nil] at hlen
  rcases hfull (Nat.le_refl _) with hsize | hempty
  · obtain ⟨f,hf⟩ : ∃ f, todo.head? = some f := by
      cases todo with
      | nil => exact absurd rfl hne
      | cons f fs => exact ⟨f,rfl⟩
    have hlt := hcut f hf
    have hfits : f.len.toNat ≤ 4096 := f.fits
    have hbuf : processBufSize = 4103 := rfl
    omega
  · rw [hempty,List.append_nil,List.append_nil] at hall
    have hleft : Incomplete (todo.drop 0) (slice s'.processBuf 0 s'.rxIn).length := by
      simpa using hcut
    exact hne (hleft.nil_of_stream hall)

def arrived (es : List UartEvent) : List UInt8 :=
  es.flatMap fun
    | .receiveInput value => [value]
    | .service => []

/-- The ring has room for one more byte: its own tests do not find it full, nor does it stand
at the corner where they miss that it is. -/
def UartRing.HasRoom (r : UartRing) : Prop :=
  r.full = false ∧ ¬ (r.queueIn = rxBufSize ∧ r.queueOut = 1)

/-- Every byte of the run finds room in the ring. -/
def NeverFull : UartPort → List UartEvent → Prop
  | _, [] => True
  | s, .receiveInput value :: es =>
    s.ring.HasRoom ∧ NeverFull { s with ring := s.ring.receiveInput value } es
  | s, .service :: es => ∀ s', wifiUartService s = some s' → NeverFull s' es

theorem receiveInput_receives {s : UartPort} {done todo : List TxFrame} {v : UInt8}
    {coming : List UInt8} (h : Receives s done todo (v :: coming)) (hroom : s.ring.HasRoom) :
    Receives { s with ring := s.ring.receiveInput v } done todo coming := by
  have hflow := (ringFlows_iff s.ring (.receiveInput v) h.ring).mpr hroom.2
  have hunread : (s.ring.receiveInput v).unread = s.ring.unread ++ [v] := by
    simpa [Fifo.Channel.Flows,ringChannel,ringStep,ringAccepted,ringReturned,hroom.1] using
      hflow.symm
  refine ⟨ringStep_inv s.ring (.receiveInput v) h.ring,h.bound,h.handled,?_⟩
  dsimp only
  rw [hunread,List.append_assoc]
  exact h.bytes

theorem portRun_receives {es : List UartEvent} {s : UartPort} {done todo : List TxFrame}
    {coming : List UInt8} (h : Receives s done todo (arrived es ++ coming))
    (hroom : NeverFull s es) :
    ∃ s' k, portRun s es = some s' ∧ Receives s' (done ++ todo.take k) (todo.drop k) coming := by
  induction es generalizing s done todo with
  | nil => exact ⟨s,0,rfl,by simpa [arrived] using h⟩
  | cons e es ih =>
    cases e with
    | receiveInput v => exact ih (receiveInput_receives h hroom.1) hroom.2
    | service =>
      obtain ⟨s',k,hserve,hrec,_⟩ := wifiUartService_receives h
      obtain ⟨s'',k',hrun,hrec'⟩ := ih hrec (hroom s' hserve)
      refine ⟨s'',k+k',?_,?_⟩
      · simp only [portRun,List.foldlM_cons,portStep,hserve]
        exact hrun
      · rw [List.append_assoc,← List.take_add,List.drop_drop] at hrec'
        exact hrec'

/-- Once all bytes are there, as many calls as there are frames left hand them over. -/
theorem portRun_drains {k : Nat} {s : UartPort} {done todo : List TxFrame}
    (h : Receives s done todo []) (hk : todo.length ≤ k) :
    ∃ s', portRun s (List.replicate k .service) = some s' ∧ Receives s' (done ++ todo) [] [] := by
  induction k generalizing s done todo with
  | zero =>
    have hnil : todo = [] := List.eq_nil_of_length_eq_zero (by omega)
    subst hnil
    exact ⟨s,rfl,by simpa using h⟩
  | succ k ih =>
    obtain ⟨s',n,hserve,hrec,hprogress⟩ := wifiUartService_receives h
    have hleft : (todo.drop n).length ≤ k := by
      by_cases hnil : todo = []
      · simp [hnil]
      · have hpos := hprogress rfl hnil
        rw [List.length_drop]
        omega
    obtain ⟨s'',hrun,hrec'⟩ := ih hrec hleft
    refine ⟨s'',?_,?_⟩
    · simp only [portRun,List.replicate_succ,List.foldlM_cons,portStep,hserve]
      exact hrun
    · rw [List.append_assoc,List.take_append_drop] at hrec'
      exact hrec'

theorem receives_init (rxBuf processBuf : Nat → UInt8) (frames : List TxFrame) :
    Receives (.init rxBuf processBuf) [] frames (stream frames) where
  ring := UartRing.inv_init rxBuf
  bound := Nat.zero_le _
  handled := .nil
  bytes := by simp [UartPort.init,UartRing.init,UartRing.unread,slice]

theorem NeverFull.of_append {s : UartPort} {es es' : List UartEvent} (h : NeverFull s (es ++ es')) :
    NeverFull s es := by
  induction es generalizing s with
  | nil => trivial
  | cons e es ih =>
    cases e with
    | receiveInput v => exact ⟨h.1,ih h.2⟩
    | service => exact fun s' hs' => ih (h s' hs')

/-- Frames of any type, version and data of up to 4096 bytes come through any interleaving of
arriving bytes and calls that never overfills the ring: at every cut the calls of
`data_handle` so far carry the first frames in order, and when all bytes have arrived at most
as many further calls as there are frames leave every frame handled and no byte behind. -/
theorem uart_frames_round_trip (rxBuf processBuf : Nat → UInt8) (frames : List TxFrame)
    (es : List UartEvent) (k : Nat) (hbytes : arrived es = stream frames)
    (hroom : NeverFull (.init rxBuf processBuf) es) (hk : frames.length ≤ k) :
    (∀ p, p <+: es → ∃ s n, portRun (.init rxBuf processBuf) p = some s ∧
      List.Forall₂ Carries s.handled (frames.take n)) ∧
    ∃ s, portRun (.init rxBuf processBuf) (es ++ List.replicate k .service) = some s ∧
      List.Forall₂ Carries s.handled frames ∧ s.rxIn = 0 ∧ s.ring.hasData = false := by
  have hstart := receives_init rxBuf processBuf frames
  refine ⟨fun p hp => ?_,?_⟩
  · obtain ⟨q,rfl⟩ := hp
    have hsplit : stream frames = arrived p ++ arrived q := by
      rw [← hbytes]
      simp [arrived]
    rw [hsplit] at hstart
    obtain ⟨s,n,hrun,hrec⟩ := portRun_receives hstart hroom.of_append
    exact ⟨s,n,hrun,by simpa using hrec.handled⟩
  · rw [← hbytes,← List.append_nil (arrived es)] at hstart
    obtain ⟨s,n,hrun,hrec⟩ := portRun_receives hstart hroom
    obtain ⟨s',hdrain,hrec'⟩ := portRun_drains (k := k) hrec (by rw [List.length_drop]; omega)
    rw [List.nil_append,List.take_append_drop] at hrec'
    have hempty := hrec'.bytes
    simp only [List.append_nil,stream,List.map_nil,List.flatten_nil,
      List.append_eq_nil_iff] at hempty
    refine ⟨s',?_,hrec'.handled,?_,?_⟩
    · simp only [portRun,List.foldlM_append] at hrun hdrain ⊢
      rw [hrun]
      exact hdrain
    · have hlen := congrArg List.length hempty.1
      simpa using hlen
    · by_contra hdata
      have hcons := unread_read hrec'.ring (by simpa using hdata)
      rw [hempty.2] at hcons
      cases hcons

theorem readLoop_pointers (n : Nat) (s : UartPort) (h : s.ring.queueOut ≤ s.ring.queueIn)
    (hin : s.ring.queueIn ≤ rxBufSize) :
    (readLoop n s).ring.queueIn = s.ring.queueIn ∧
    (readLoop n s).ring.queueOut ≤ s.ring.queueIn := by
  induction n generalizing s with
  | zero => exact ⟨rfl,h⟩
  | succ n ih =>
    rw [readLoop]
    by_cases hgo : s.rxIn < processBufSize ∧ s.ring.hasData = true
    · have hne : s.ring.queueIn ≠ s.ring.queueOut := by simpa [UartRing.hasData] using hgo.2
      rw [if_pos hgo,UartRing.readByte_next (by omega)]
      exact ih _ (by simp only; omega) hin
    · rw [if_neg hgo]
      exact ⟨rfl,h⟩

theorem wifiUartService_ring {s s' : UartPort} (h : wifiUartService s = some s') :
    s'.ring = (readLoop (processBufSize-s.rxIn) s).ring := by
  unfold wifiUartService parseFrames at h
  split at h
  · rw [Option.some.inj h]
  · obtain ⟨r,_,hr⟩ := Option.map_eq_some_iff.mp h
    rw [← hr]

/-- Streams that are shorter than the array find room whenever they come. -/
theorem neverFull_of_short {es : List UartEvent} {s : UartPort}
    (h : s.ring.queueOut ≤ s.ring.queueIn)
    (hshort : s.ring.queueIn+(arrived es).length < rxBufSize) : NeverFull s es := by
  induction es generalizing s with
  | nil => trivial
  | cons e es ih =>
    cases e with
    | receiveInput v =>
      have hcount : (arrived (.receiveInput v :: es)).length = (arrived es).length+1 := by
        simp [arrived]
      have hfull : s.ring.full = false := by
        rw [← Bool.not_eq_true,UartRing.full_iff]
        omega
      refine ⟨⟨hfull,by omega⟩,?_⟩
      rw [UartRing.receiveInput_next hfull (by omega)]
      exact ih (by simp only; omega) (by simp only; omega)
    | service =>
      intro s' hs'
      have hcount : arrived (.service :: es) = arrived es := rfl
      have hp := readLoop_pointers (processBufSize-s.rxIn) s h (by omega)
      rw [← wifiUartService_ring hs'] at hp
      rw [hcount] at hshort
      exact ih (by omega) (by omega)

/-- Two frames, the first of which carries the two head bytes as data. -/
def twoFrames : List TxFrame :=
  [⟨6,3,2,fun i => if i = 6 then 0x55 else if i = 7 then 0xaa else 0,by decide⟩,
    ⟨7,3,1,fun _ => 9,by decide⟩]

/-- The receiver is called after each byte of the first frame only. -/
def twoFramesEvents : List UartEvent :=
  ((stream (twoFrames.take 1)).flatMap fun b => [.receiveInput b,.service]) ++
    (stream (twoFrames.drop 1)).map .receiveInput

theorem uart_frames_round_trip_two :
    ∃ s, portRun (.init (fun _ => 0) fun _ => 0)
        (twoFramesEvents ++ List.replicate 2 .service) = some s ∧
      List.Forall₂ Carries s.handled twoFrames ∧ s.rxIn = 0 ∧ s.ring.hasData = false :=
  (uart_frames_round_trip (fun _ => 0) (fun _ => 0) twoFrames twoFramesEvents 2 (by decide)
    (neverFull_of_short (Nat.le_refl _) (by decide)) (Nat.le_refl _)).2

end GatewayF411
