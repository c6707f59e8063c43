import Mathlib.Data.List.Forall2
import Mathlib.Data.List.TakeWhile
import GatewayF411.CJsonRoundTrip
import GatewayF411.CloudLink
import GatewayF411.UartRoundTrip

/-!
Commands of the WiFi module from its side: what the firmware does when their bytes arrive is what
the commands say, in their order, whatever the threads of the firmware do in between.
-/

set_option autoImplicit false

namespace GatewayF411
open CText Cells

def IsOctet (c : Char) : Prop := 0 < c.toNat ∧ c.toNat < 256

instance (c : Char) : Decidable (IsOctet c) := inferInstanceAs (Decidable (_ ∧ _))

section Octets

def Octets (t : Text) : Prop := ∀ c ∈ t, IsOctet c

theorem Octets.append {t u : Text} (ht : Octets t) (hu : Octets u) : Octets (t ++ u) := by
  intro c hc
  exact (List.mem_append.mp hc).elim (ht c) (hu c)

theorem Octets.cons {c : Char} {t : Text} (hc : IsOctet c) (ht : Octets t) : Octets (c :: t) := by
  intro d hd
  rcases List.mem_cons.mp hd with rfl | hd
  · exact hc
  · exact ht d hd

theorem octets_letters {t : Text} (h : (t.all fun c => decide (IsOctet c)) = true) : Octets t :=
  fun c hc => of_decide_eq_true (List.all_eq_true.mp h c hc)

theorem Octets.isCString {t : Text} (h : Octets t) : IsCString t := fun hz => absurd (h _ hz).1 (by decide)

theorem octets_digits {t : Text} (h : ∀ c ∈ t, c.isDigit = true) : Octets t := by
  intro c hc
  have hrange := Char.isDigit_iff_toNat.mp (h c hc)
  change 48 ≤ c.toNat ∧ c.toNat ≤ 57 at hrange
  exact ⟨by omega,by omega⟩

theorem octets_printNumber (fmtDouble : CNumber → Text) {n : CNumber} (h : IsInt n) :
    Octets (printNumber fmtDouble n) := by
  obtain ⟨v,hlow,hhigh,rfl⟩ := h
  unfold printNumber
  rw [intValue_ofInt hlow hhigh]
  dsimp only
  split
  · exact .cons (by decide) nofun
  · unfold printLong
    split
    · exact .cons (by decide) (octets_digits (toDigits_all_isDigit _))
    · exact octets_digits (toDigits_all_isDigit _)

theorem octets_hex4 (n : Nat) : Octets (hex4 n) := by
  have hdigit : ∀ k < 16, IsOctet (hexDigitLower k) := by
    unfold IsOctet
    decide
  intro c hc
  simp only [hex4,List.mem_cons,List.not_mem_nil,or_false] at hc
  rcases hc with rfl | rfl | rfl | rfl <;> exact hdigit _ (Nat.mod_lt _ (by decide))

theorem octets_escapeChar {c : Char} (h : IsOctet c) : Octets (escapeChar c) := by
  have hpair : ∀ d, IsOctet d → Octets ['\\',d] := fun d hd =>
    .cons (by decide) (.cons hd nofun)
  unfold escapeChar
  split
  · exact .cons h nofun
  · repeat' split
    all_goals first
      | exact hpair _ (by decide)
      | exact .cons (by decide) (.cons (by decide) (octets_hex4 _))

theorem octets_printStringPtr {s : Text} (h : Octets s) : Octets (printStringPtr s) := by
  have hquote : IsOctet '"' := (by decide)
  have hbody : Octets (s.flatMap escapeChar) := by
    intro c hc
    obtain ⟨d,hd,hcd⟩ := List.mem_flatMap.mp hc
    exact octets_escapeChar (h d hd) c hcd
  rw [printStringPtr_eq]
  exact .cons hquote (.append hbody (.cons hquote nofun))

mutual

theorem octets_printValue (fmtDouble : CNumber → Text) : ∀ j : CJson, (∀ s ∈ j.strings, Octets s) →
    (∀ n ∈ j.numbers, IsInt n) → Octets (printValue fmtDouble j)
  | .null, _, _ => by
    rw [printValue]
    exact octets_letters (by decide)
  | .false, _, _ => by
    rw [printValue]
    exact octets_letters (by decide)
  | .true, _, _ => by
    rw [printValue]
    exact octets_letters (by decide)
  | .number n, _, hn => octets_printNumber fmtDouble (hn n (by simp [CJson.numbers]))
  | .string s, hs, _ => octets_printStringPtr (hs s (by simp [CJson.strings]))
  | .array [], _, _ => by
    rw [printValue]
    exact octets_letters (by decide)
  | .array (x :: xs), hs, hn => by
    simp only [CJson.strings,itemStrings,CJson.numbers,itemNumbers,List.forall_mem_append] at hs hn
    rw [printValue]
    exact .append (.append (.cons (by decide) (octets_printValue fmtDouble x hs.1 hn.1))
      (octets_printItems fmtDouble xs hs.2 hn.2)) (octets_letters (by decide))
  | .object [], _, _ => by
    rw [printValue]
    exact octets_letters (by decide)
  | .object ((k,x) :: ms), hs, hn => by
    simp only [CJson.strings,memberStrings,CJson.numbers,memberNumbers,List.cons_append,
      List.forall_mem_cons,List.forall_mem_append] at hs hn
    rw [printValue]
    exact .append (.append (.append (.cons (by decide) (octets_printStringPtr hs.1))
      (.cons (by decide) (octets_printValue fmtDouble x hs.2.1 hn.1)))
      (octets_printMembers fmtDouble ms hs.2.2 hn.2)) (octets_letters (by decide))

theorem octets_printItems (fmtDouble : CNumber → Text) : ∀ xs : List CJson,
    (∀ s ∈ itemStrings xs, Octets s) → (∀ n ∈ itemNumbers xs, IsInt n) → Octets (printItems fmtDouble xs)
  | [], _, _ => nofun
  | x :: xs, hs, hn => by
    simp only [itemStrings,itemNumbers,List.forall_mem_append] at hs hn
    rw [printItems]
    exact .append (.cons (by decide) (octets_printValue fmtDouble x hs.1 hn.1))
      (octets_printItems fmtDouble xs hs.2 hn.2)

theorem octets_printMembers (fmtDouble : CNumber → Text) : ∀ ms : List (Text × CJson),
    (∀ s ∈ memberStrings ms, Octets s) → (∀ n ∈ memberNumbers ms, IsInt n) →
      Octets (printMembers fmtDouble ms)
  | [], _, _ => nofun
  | (k,x) :: ms, hs, hn => by
    simp only [memberStrings,memberNumbers,List.cons_append,List.forall_mem_cons,
      List.forall_mem_append] at hs hn
    rw [printMembers]
    exact .append (.append (.cons (by decide) (octets_printStringPtr hs.1))
      (.cons (by decide) (octets_printValue fmtDouble x hs.2.1 hn.1)))
      (octets_printMembers fmtDouble ms hs.2.2 hn.2)

end

end Octets

structure DpRecord where
  dpid : UInt8
  type : UInt8
  data : List UInt8

namespace DpRecord

def encode (r : DpRecord) : List UInt8 :=
  r.dpid :: r.type :: UInt8.ofNat (r.data.length/256) :: UInt8.ofNat r.data.length :: r.data

/-- Of all data points the gateway obeys only the valve control. -/
def perform (subId : List UInt8) (g : Gateway) (r : DpRecord) : Gateway :=
  if r.dpid = dpidControlState ∧ r.type = dpTypeBool then
    (dpDownloadControlStateHandle [r.data.headD 0] subId g).2
  else g

end DpRecord

def recordBytes (rs : List DpRecord) : List UInt8 := rs.flatMap DpRecord.encode

/-- A command as the WiFi module means it. -/
inductive Order where
  | delete (body : CJson)
  | heartCheck (body : CJson)
  | issued (subId : List UInt8) (records : List DpRecord)
  | wifiState (state : UInt8)
  | netin (permit : Bool)

def Order.cmd : Order → WifiCmd
  | .delete _ => .subdeviceDelete
  | .heartCheck _ => .heartCheck
  | .issued _ _ => .dataIssued
  | .wifiState _ => .wifiState
  | .netin permit => if permit then .permitNetin else .closeNetin

def Order.data (fmtDouble : CNumber → Text) : Order → List UInt8
  | .delete body | .heartCheck body =>
    (cJSONPrintUnformatted fmtDouble body).map fun c => UInt8.ofNat c.toNat
  | .issued subId records => UInt8.ofNat subId.length :: (subId ++ recordBytes records)
  | .wifiState state => [state]
  | .netin _ => []

/-- A body that the parser reads back, with an id that is a string. -/
structure SoundBody (needed : List Text) (body : CJson) : Prop where
  octets : ∀ s ∈ body.strings, Octets s
  numbers : ∀ n ∈ body.numbers, IsInt n
  balanced : ∀ s ∈ body.strings, Balanced s
  named : body.named needed ≠ .undefined

def Order.Sound : Order → Prop
  | .delete body => SoundBody [['t','p']] body
  | .heartCheck body => SoundBody [] body
  | .issued subId records => subId.length < bufSize ∧ ∀ r ∈ records, r.data ≠ []
  | _ => True

/-- The stack holds what the handler puts there: `pstr` and the parser's calls for a JSON body. -/
def Order.Fits (fmtDouble : CNumber → Text) (io : FrameIo) : Order → Prop
  | .delete body => io.stackHolds ((Order.delete body).data fmtDouble) = true
  | .heartCheck body => io.stackHolds ((Order.heartCheck body).data fmtDouble) = true
  | _ => True

def Order.perform (m : Mcu) : Order → Mcu
  | .delete body =>
    match body.named [['t','p']] with
    | .subId id => m.setGateway (subdeviceDelete id m.station.gateway)
    | _ => m.setGateway (m.station.gateway.emit .subdeviceDeleteAck)
  | .heartCheck body =>
    match body.named [] with
    | .subId id => m.setGateway (heartRequest id m.station.gateway)
    | _ => m
  | .issued subId records => m.setGateway (records.foldl (DpRecord.perform subId) m.station.gateway)
  | .wifiState state => m.wifiState state
  | .netin permit =>
    { m.reply (if permit then .permitNetin else .closeNetin) [] with ifSubdevNetIn := permit }

section Frames
variable {fmtDouble : CNumber → Text}

structure Asks (fmtDouble : CNumber → Text) (o : Order) (f : TxFrame) : Prop where
  sound : o.Sound
  type : f.frType = o.cmd.code
  len : f.len.toNat = (o.data fmtDouble).length
  data : Holds f.txBuf dataStart (o.data fmtDouble)

def Order.frame (fmtDouble : CNumber → Text) (o : Order)
    (h : (o.data fmtDouble).length ≤ wifirUartSendBufLmt) : TxFrame where
  frType := o.cmd.code
  frVer := 0
  len := UInt16.ofNat (o.data fmtDouble).length
  txBuf i := (o.data fmtDouble).getD (i-dataStart) 0
  fits := by
    rw [UInt16.toNat_ofNat_of_lt' (Nat.lt_of_le_of_lt h (by decide))]
    exact h

theorem Order.Sound.asks_frame {o : Order} (hs : o.Sound)
    (h : (o.data fmtDouble).length ≤ wifirUartSendBufLmt) : Asks fmtDouble o (o.frame fmtDouble h) where
  sound := hs
  type := rfl
  len := UInt16.toNat_ofNat_of_lt' (Nat.lt_of_le_of_lt h (by decide))
  data := by
    intro i v hv
    change (o.data fmtDouble).getD (dataStart+i-dataStart) 0 = v
    rw [Nat.add_sub_cancel_left,List.getD_eq_getElem?_getD,hv]
    rfl

structure Found (cmd : WifiCmd) (data : List UInt8) (buf : Nat → UInt8) : Prop where
  type : buf frameType = cmd.code
  len : (totalLen buf).toNat = data.length
  data : Holds buf dataStart data

theorem totalLen_toNat (buf : Nat → UInt8) :
    (totalLen buf).toNat = (buf lengthHigh).toNat*256+(buf lengthLow).toNat := by
  have hhigh := (buf lengthHigh).toNat_lt
  have hlow := (buf lengthLow).toNat_lt
  have hor := Nat.shiftLeft_add_eq_or_of_lt (i := 8) hlow (buf lengthHigh).toNat
  rw [Nat.shiftLeft_eq] at hor
  unfold totalLen
  rw [UInt16.toNat_or,UInt16.toNat_shiftLeft,UInt8.toNat_toUInt16,UInt8.toNat_toUInt16]
  change ((buf lengthHigh).toNat <<< 8) % 65536 ||| _ = _
  rw [Nat.shiftLeft_eq,Nat.mod_eq_of_lt (by omega)]
  omega

theorem Carries.found {call : HandleCall} {o : Order} {f : TxFrame} (h : Carries call f)
    (ha : Asks fmtDouble o f) :
    Found o.cmd (o.data fmtDouble) fun i => call.buf (call.offset+i) where
  type := h.type.trans ha.type
  len := by
    rw [totalLen_toNat,← ha.len]
    exact h.length
  data := by
    intro i v hv
    have hi : i < f.len.toNat := by
      rw [ha.len]
      exact (List.getElem?_eq_some_iff.mp hv).1
    change call.buf (call.offset+(dataStart+i)) = v
    rw [← Nat.add_assoc,h.data i hi]
    exact ha.data i v hv

section Handled
variable {data : List UInt8} {buf : Nat → UInt8}

theorem frameText_octets {cmd : WifiCmd} {t : Text} (h : Octets t)
    (hf : Found cmd (t.map fun c => UInt8.ofNat c.toNat) buf) : frameText buf = t := by
  have hslice := slice_of_holds hf.data
  unfold frameText frameData cString
  rw [hf.len,hslice,List.drop_zero]
  have hbyte : ∀ c ∈ t, (UInt8.ofNat c.toNat).toNat = c.toNat := fun c hc =>
    UInt8.toNat_ofNat_of_lt (h c hc).2
  have hall : ∀ b ∈ t.map (fun c => UInt8.ofNat c.toNat), (b != 0) = true := by
    intro b hb
    obtain ⟨c,hc,rfl⟩ := List.mem_map.mp hb
    rw [bne_iff_ne]
    intro hzero
    have hpos := (h c hc).1
    rw [← hbyte c hc,hzero] at hpos
    exact absurd hpos (by decide)
  rw [List.takeWhile_eq_self_iff.mpr hall,List.map_map]
  refine (List.map_congr_left fun c hc => ?_).trans (List.map_id t)
  change Char.ofNat (UInt8.ofNat c.toNat).toNat = c
  rw [hbyte c hc,Char.ofNat_toNat]

theorem dataPointHandle_record {r : DpRecord} {i : Nat} (hdata : Holds buf (dataStart+i) r.encode)
    (hne : r.data ≠ []) (subId : List UInt8) (g : Gateway) :
    dataPointHandle buf subId i g = r.perform subId g := by
  obtain ⟨v,data,hv⟩ := List.exists_cons_of_ne_nil hne
  simp only [DpRecord.encode,hv,holds_cons] at hdata
  obtain ⟨hid,htype,_,_,hvalue,_⟩ := hdata
  have hvalue' : buf (dataStart+i+4) = v := hvalue
  unfold dataPointHandle dpDownloadHandle DpRecord.perform
  simp only [hid,htype,hvalue',hv,List.headD_cons]
  by_cases hcontrol : r.dpid = dpidControlState
  · rw [hcontrol]
    have hfind : downloadCmd.find? (fun cmd => cmd.1 == dpidControlState) =
        some (dpidControlState,dpTypeBool) := rfl
    rw [hfind]
    by_cases hbool : r.type = dpTypeBool
    · simp [hbool]
    · simp [hbool]
  · simp only [hcontrol,false_and,if_false]
    split
    · split <;> rfl
    · rfl

theorem recordLoop_records (subId : List UInt8) (records : List DpRecord) {i : Nat} (fuel : Nat) (g : Gateway)
    (hdata : Holds buf (dataStart+i) (recordBytes records))
    (hend : i+(recordBytes records).length = (totalLen buf).toNat) (hfuel : records.length < fuel)
    (hne : ∀ r ∈ records, r.data ≠ []) :
    ∃ places, recordLoop buf subId fuel i g =
      some (places,records.foldl (DpRecord.perform subId) g) := by
  induction records generalizing i fuel g with
  | nil =>
    obtain ⟨fuel,rfl⟩ := Nat.exists_eq_succ_of_ne_zero (Nat.ne_of_gt hfuel)
    have hstop : ¬ i < (totalLen buf).toNat := by
      rw [← hend]
      exact Nat.lt_irrefl _
    exact ⟨[],by rw [recordLoop,if_neg hstop]; rfl⟩
  | cons r rs ih =>
    obtain ⟨fuel,rfl⟩ := Nat.exists_eq_succ_of_ne_zero (Nat.ne_of_gt (Nat.zero_lt_of_lt hfuel))
    have hlt := (totalLen buf).toNat_lt
    have hsize : r.encode.length = 4+r.data.length := by
      simp only [DpRecord.encode,List.length_cons]
      omega
    rw [recordBytes,List.flatMap_cons,holds_append] at hdata
    rw [recordBytes,List.flatMap_cons,List.length_append,hsize] at hend
    have hlen : dpLen buf i = r.data.length := by
      have hhead := hdata.1
      simp only [DpRecord.encode,holds_cons] at hhead
      obtain ⟨_,_,hhigh,hlow,_⟩ := hhead
      have hhigh' : buf (dataStart+i+2) = _ := hhigh
      have hlow' : buf (dataStart+i+3) = _ := hlow
      unfold dpLen
      rw [hhigh',hlow']
      simp only [UInt8.toNat_ofNat']
      omega
    have hnext : (i+(dpLen buf i+4)) % 65536 = i+r.encode.length := by
      rw [hlen,hsize,Nat.mod_eq_of_lt (by omega)]
      omega
    obtain ⟨places,hloop⟩ := ih (i := i+r.encode.length) fuel (r.perform subId g)
      (by rw [← Nat.add_assoc]; exact hdata.2) (by rw [recordBytes,hsize]; omega)
      (by simpa using hfuel) (fun x hx => hne x (List.mem_cons_of_mem _ hx))
    refine ⟨i :: places,?_⟩
    rw [recordLoop,if_pos (by omega),hnext,
      dataPointHandle_record hdata.1 (hne r List.mem_cons_self) subId,hloop]
    rfl

theorem namedIn_print {needed : List Text} {body : CJson} (h : SoundBody needed body) {cmd : WifiCmd}
    (hf : Found cmd ((cJSONPrintUnformatted fmtDouble body).map fun c => UInt8.ofNat c.toNat) buf) :
    namedIn needed (frameText buf) = body.named needed := by
  have htext := frameText_octets (octets_printValue fmtDouble body h.octets h.numbers) hf
  have hparse := cJSONParse_print fmtDouble
    (⟨fun s hs => (h.octets s hs).isCString,h.numbers⟩ : Printable body.strings body.numbers) h.balanced
  unfold cJSONPrintUnformatted at hparse
  unfold namedIn
  rw [htext,hparse]

theorem length_le_recordBytes (records : List DpRecord) :
    records.length ≤ (recordBytes records).length := by
  induction records with
  | nil => exact Nat.le_refl _
  | cons r rs ih =>
    rw [recordBytes,List.flatMap_cons,List.length_append,List.length_cons,DpRecord.encode,
      List.length_cons]
    rw [recordBytes] at ih
    omega

theorem issued_handled {subId : List UInt8} {records : List DpRecord} {cmd : WifiCmd}
    (hlen : subId.length < bufSize) (hne : ∀ r ∈ records, r.data ≠ [])
    (hf : Found cmd (UInt8.ofNat subId.length :: (subId ++ recordBytes records)) buf) (g : Gateway) :
    subIdLen buf < bufSize ∧ ∃ places, dataIssued buf 65537 g =
      .handled places (records.foldl (DpRecord.perform subId) g) := by
  obtain ⟨hfirst,hrest⟩ := holds_cons.mp hf.data
  obtain ⟨hid,hrecords⟩ := holds_append.mp hrest
  have hsize : subIdLen buf = subId.length := by
    unfold subIdLen
    rw [hfirst]
    exact UInt8.toNat_ofNat_of_lt (Nat.lt_trans hlen (by decide))
  have hbuf : subIdBuf buf = some subId := by
    have hslice := slice_of_holds hid
    rw [slice,Nat.add_sub_cancel_left,List.range'_eq_map_range,List.map_map] at hslice
    unfold subIdBuf
    rw [hsize,if_pos (Nat.le_of_lt hlen)]
    exact congrArg some hslice
  have htotal := hf.len
  have hlt := (totalLen buf).toNat_lt
  simp only [List.length_cons,List.length_append] at htotal
  have hcount := length_le_recordBytes records
  obtain ⟨places,hloop⟩ := recordLoop_records subId records (i := 1+subId.length) 65537 g
    (by rw [← Nat.add_assoc]; exact hrecords) (by omega) (by omega) hne
  refine ⟨by rw [hsize]; exact hlen,places,?_⟩
  simp only [dataIssued,hsize,hbuf,hloop]

theorem frameData_found {cmd : WifiCmd} (hf : Found cmd data buf) : frameData buf = data := by
  unfold frameData
  rw [hf.len]
  exact slice_of_holds hf.data

theorem mcuDataHandle_order {o : Order} (hs : o.Sound) (hf : Found o.cmd (o.data fmtDouble) buf)
    {io : FrameIo} (hfit : o.Fits fmtDouble io) (m : Mcu) :
    mcuDataHandle io buf m = .ok (.on (o.perform m)) := by
  unfold mcuDataHandle
  rw [hf.type,WifiCmd.ofCode_code]
  cases o with
  | delete body =>
    have hnamed := namedIn_print hs hf
    have hroom : io.stackHolds (frameData buf) = true := by
      rw [frameData_found hf]
      exact hfit
    simp only [Order.cmd,handleCmd,handleText,if_pos hroom,subdeviceDeleteText,hnamed,Order.perform]
    cases hn : body.named [['t','p']] with
    | refused => rfl
    | subId id => rfl
    | undefined => exact absurd hn hs.named
  | heartCheck body =>
    have hnamed := namedIn_print hs hf
    have hroom : io.stackHolds (frameData buf) = true := by
      rw [frameData_found hf]
      exact hfit
    simp only [Order.cmd,handleCmd,handleText,if_pos hroom,heartBeatCheck,hnamed,Order.perform]
    cases hn : body.named [] with
    | refused => rfl
    | subId id => rfl
    | undefined => exact absurd hn hs.named
  | issued subId records =>
    obtain ⟨hlen,places,hloop⟩ := issued_handled hs.1 hs.2 hf m.station.gateway
    simp only [Order.cmd,handleCmd,hloop,if_neg (Nat.ne_of_lt hlen)]
    rfl
  | wifiState state =>
    have hstate : buf dataStart = state := (holds_cons.mp hf.data).1
    simp only [Order.cmd,handleCmd,hstate]
    rfl
  | netin permit =>
    cases permit with
    | true => rfl
    | false => rfl

end Handled

/-- What the firmware does: an order of the module, or a turn of another thread. -/
inductive Act where
  | order (o : Order)
  | thread (e : ThreadEvent)

def Act.order? : Act → Option Order
  | .order o => some o
  | .thread _ => none

def Act.thread? : Act → Option ThreadEvent
  | .order _ => none
  | .thread e => some e

def Act.perform (m : Mcu) : Act → Mcu
  | .order o => o.perform m
  | .thread e => m.turn e

def LinkEvent.uart? : LinkEvent → Option UartEvent
  | .receiveInput value => some (.receiveInput value)
  | .service _ => some .service
  | .thread _ => none

def LinkEvent.thread? : LinkEvent → Option ThreadEvent
  | .thread e => some e
  | _ => none

def Fit (fmtDouble : CNumber → Text) (orders : List Order) (ios : Nat → FrameIo) : Prop :=
  ∀ n, ∀ o ∈ orders, o.Fits fmtDouble (ios n)

theorem handleCalls_orders {ios : Nat → FrameIo} {calls : List HandleCall} {frames : List TxFrame}
    {orders : List Order} (hc : List.Forall₂ Carries calls frames)
    (ha : List.Forall₂ (Asks fmtDouble) orders frames) (hfit : Fit fmtDouble orders ios) (m : Mcu) :
    handleCalls ios calls m = .ok (.on (orders.foldl Order.perform m)) := by
  induction hc generalizing orders m with
  | nil =>
    cases ha
    rfl
  | cons hcall _ ih =>
    cases ha with
    | cons hask hrest =>
      rw [handleCalls,mcuDataHandle_order hask.sound (hcall.found hask) (hfit _ _ List.mem_cons_self)]
      exact ih hrest (fun n o ho => hfit n o (List.mem_cons_of_mem _ ho)) _

/-- The firmware comes from `m` to `m'` by performing the orders in their order and, in between,
the turns of the other threads in theirs. -/
def Performs (orders : List Order) (turns : List ThreadEvent) (m m' : Mcu) : Prop :=
  ∃ acts : List Act, acts.filterMap Act.order? = orders ∧ acts.filterMap Act.thread? = turns ∧
    m' = acts.foldl Act.perform m

theorem Performs.orders {orders : List Order} {turns : List ThreadEvent} {m m' : Mcu}
    (h : Performs orders turns m m') (more : List Order) :
    Performs (orders ++ more) turns m (more.foldl Order.perform m') := by
  obtain ⟨acts,hords,hturns,rfl⟩ := h
  have hord : Act.order? ∘ Act.order = some := rfl
  have hturn : Act.thread? ∘ Act.order = fun _ => none := rfl
  refine ⟨acts ++ more.map .order,?_,?_,?_⟩
  · rw [List.filterMap_append,hords,List.filterMap_map,hord,List.filterMap_some]
  · rw [List.filterMap_append,hturns,List.filterMap_map,hturn]
    simp
  · rw [List.foldl_append,List.foldl_map]
    rfl

theorem Performs.turn {orders : List Order} {turns : List ThreadEvent} {m m' : Mcu}
    (h : Performs orders turns m m') (e : ThreadEvent) :
    Performs orders (turns ++ [e]) m (m'.turn e) := by
  obtain ⟨acts,hords,hturns,rfl⟩ := h
  refine ⟨acts ++ [.thread e],?_,?_,?_⟩
  · rw [List.filterMap_append,hords]
    simp [Act.order?]
  · rw [List.filterMap_append,hturns]
    rfl
  · rw [List.foldl_append]
    rfl

theorem readsOutside_short {buf : Nat → UInt8} {rxIn offset : Nat} (fuel : Nat)
    (h : rxIn-offset < protocolHead) : readsOutside buf rxIn fuel offset = false := by
  cases fuel with
  | zero => rfl
  | succ fuel =>
    have hfalse : ¬ WrapsAt buf rxIn offset := fun hw => absurd h (Nat.not_lt.mpr hw.1)
    rw [readsOutside,decide_eq_false hfalse,serviceLook,if_pos h]
    rfl

section Head
variable {buf : Nat → UInt8} {rxIn offset : Nat} {f : TxFrame}

theorem announcedLen_frame (hbyte : ∀ i, i < 7 → buf (offset+i) = f.image i) :
    announcedLen (fun a => buf a.toNat) offset = f.len.toNat := by
  have hfield := f.image_length
  simp only [announcedLen,Int.toNat_natCast]
  rw [hbyte lengthHigh (by decide),hbyte lengthLow (by decide)]
  exact hfield

theorem serviceLook_frame (hroom : 7 ≤ rxIn-offset) (hbyte : ∀ i, i < 7 → buf (offset+i) = f.image i)
    (hpart : rxIn-offset < f.len.toNat+7) :
    serviceLook (fun a => buf a.toNat) rxIn offset = .stop := by
  have hfits : f.len.toNat ≤ 4096 := f.fits
  have htotal : (f.len.toNat+7) % 65536 = f.len.toNat+7 := by omega
  have hsize : ¬ processBufSize < f.len.toNat+7 := by
    change ¬ 4103 < f.len.toNat+7
    omega
  have hfirst := (hbyte headFirst (by decide)).trans f.image_first
  have hsecond := (hbyte headSecond (by decide)).trans f.image_second
  simp only [serviceLook,Int.toNat_natCast,hfirst,hsecond,announcedLen_frame hbyte,protocolHead,htotal,
    if_neg (Nat.not_lt.mpr hroom),if_neg hsize,if_pos hpart,ne_eq,not_true,if_false]

theorem serviceLook_complete (hall : ∀ i, i < f.len.toNat+7 → buf (offset+i) = f.image i)
    (hwhole : f.len.toNat+7 ≤ rxIn-offset) :
    serviceLook (fun a => buf a.toNat) rxIn offset = .take (offset+(f.len.toNat+7)) := by
  have hfits : f.len.toNat ≤ 4096 := f.fits
  have htotal : (f.len.toNat+7) % 65536 = f.len.toNat+7 := by omega
  have hsix : (f.len.toNat+6) % 65536 = f.len.toNat+6 := by omega
  have hlast : ((offset+(f.len.toNat+7) : Nat)-1 : Int).toNat = offset+(f.len.toNat+7)-1 := by omega
  have hsize : f.len.toNat+7 ≤ processBufSize := by
    change f.len.toNat+7 ≤ 4103
    omega
  refine serviceLook_take_iff.mpr ?_
  simp only [Int.toNat_natCast,announcedLen_frame fun i hi => hall i (by omega),htotal,hsix,hlast]
  exact ⟨by omega,(hall headFirst (by simp [headFirst])).trans f.image_first,
    (hall headSecond (by simp [headSecond])).trans f.image_second,hsize,hwhole,complete_sum hall,trivial⟩

end Head

theorem readsOutside_frames {buf : Nat → UInt8} {rxIn : Nat} {rest : List UInt8} (fs : List TxFrame)
    (fuel : Nat) {offset : Nat} (hbytes : slice buf offset rxIn ++ rest = stream fs) :
    readsOutside buf rxIn fuel offset = false := by
  induction fs generalizing fuel offset with
  | nil =>
    have hlen := congrArg List.length hbytes
    simp only [List.length_append,slice_length,stream,List.map_nil,List.flatten_nil,
      List.length_nil] at hlen
    exact readsOutside_short fuel (by simp only [protocolHead]; omega)
  | cons f fs ih =>
    by_cases hshort : rxIn-offset < protocolHead
    · exact readsOutside_short fuel hshort
    cases fuel with
    | zero => rfl
    | succ fuel =>
      have hroom : 7 ≤ rxIn-offset := Nat.le_of_not_lt hshort
      have hfits : f.len.toNat ≤ 4096 := f.fits
      have hbyte : ∀ i, i < 7 → buf (offset+i) = f.image i :=
        fun i hi => arrived_bytes hbytes (by omega) (by omega)
      have hfalse : ¬ WrapsAt buf rxIn offset := by
        rintro ⟨_,_,_,hwraps⟩
        rw [announcedLen_frame hbyte] at hwraps
        omega
      rw [readsOutside,decide_eq_false hfalse,Bool.false_or]
      by_cases hpart : rxIn-offset < f.len.toNat+7
      · rw [serviceLook_frame hroom hbyte hpart]
      · have hall : ∀ i, i < f.len.toNat+7 → buf (offset+i) = f.image i :=
          fun i hi => arrived_bytes hbytes (by omega) hi
        have hwhole := Nat.le_of_not_lt hpart
        rw [serviceLook_complete hall hwhole]
        exact ih fuel (complete_rest hall hwhole hbytes)

theorem linkService_receives {s port : UartPort} {done todo : List TxFrame} {coming : List UInt8}
    (h : Receives s done todo coming) (hserve : wifiUartService s = some port) :
    linkService s = .ok port := by
  have hinside := readsOutside_frames todo ((readLoop (processBufSize-s.rxIn) s).rxIn+1)
    (readLoop_receives h (processBufSize-s.rxIn)).bytes
  unfold linkService
  simp only [hinside,hserve,Bool.false_eq_true,if_false]

/-- The orders of the frames handed over have been performed, between the turns of the other
threads in `turns`. -/
structure Follows (fmtDouble : CNumber → Text) (m : Mcu) (orders : List Order) (frames : List TxFrame)
    (l : Link) (n : Nat) (turns : List ThreadEvent) (coming : List UInt8) : Prop where
  receives : Receives l.port (frames.take n) (frames.drop n) coming
  performs : Performs (orders.take n) turns m l.mcu

theorem Follows.service {m : Mcu} {orders : List Order} {frames : List TxFrame} {l : Link} {n : Nat}
    {turns : List ThreadEvent} {coming : List UInt8} (ha : List.Forall₂ (Asks fmtDouble) orders frames)
    (h : Follows fmtDouble m orders frames l n turns coming) {ios : Nat → FrameIo}
    (hfit : Fit fmtDouble orders ios) :
    ∃ l' k, linkStep l (.service ios) = .ok l' ∧ wifiUartService l.port = some l'.port ∧
      Follows fmtDouble m orders frames l' (n+k) turns coming ∧
      (coming = [] → frames.drop n ≠ [] → 0 < k) := by
  obtain ⟨port,k,hserve,hrec,hprogress⟩ := wifiUartService_receives h.receives
  rw [← List.take_add,List.drop_drop] at hrec
  have hdone : l.port.handled.length = (frames.take n).length := h.receives.handled.length_eq
  have hcalls : List.Forall₂ Carries (port.handled.drop l.port.handled.length) ((frames.drop n).take k) := by
    have hdrop := List.forall₂_drop (frames.take n).length hrec.handled
    rw [hdone]
    rwa [List.take_add,List.drop_left] at hdrop
  have hnew : List.Forall₂ (Asks fmtDouble) ((orders.drop n).take k) ((frames.drop n).take k) :=
    List.forall₂_take k (List.forall₂_drop n ha)
  have hnewfit : Fit fmtDouble ((orders.drop n).take k) ios := fun i o ho =>
    hfit i o (List.mem_of_mem_drop (List.mem_of_mem_take ho))
  refine ⟨⟨port,((orders.drop n).take k).foldl Order.perform l.mcu⟩,k,?_,hserve,⟨hrec,?_⟩,hprogress⟩
  · simp only [linkStep,bind,Except.bind,linkService_receives h.receives hserve,
      handleCalls_orders hcalls hnew hnewfit]
    rfl
  · rw [List.take_add]
    exact h.performs.orders _

section Run
variable {m : Mcu} {orders : List Order} {frames : List TxFrame} {turns : List ThreadEvent}
  (ha : List.Forall₂ (Asks fmtDouble) orders frames)
include ha

theorem linkRun_follows {es : List LinkEvent} {l : Link} {n : Nat} {turns : List ThreadEvent}
    {coming : List UInt8}
    (h : Follows fmtDouble m orders frames l n turns (arrived (es.filterMap LinkEvent.uart?) ++ coming))
    (hroom : NeverFull l.port (es.filterMap LinkEvent.uart?))
    (hfit : ∀ ios, .service ios ∈ es → Fit fmtDouble orders ios) :
    ∃ l' n', linkRun l es = .ok l' ∧ Follows fmtDouble m orders frames l' n'
      (turns ++ es.filterMap LinkEvent.thread?) coming := by
  induction es generalizing l n turns with
  | nil => exact ⟨l,n,rfl,by simpa [arrived] using h⟩
  | cons e es ih =>
    have hlater : ∀ ios, .service ios ∈ es → Fit fmtDouble orders ios := fun ios hios =>
      hfit ios (List.mem_cons_of_mem _ hios)
    cases e with
    | receiveInput v =>
      exact ih (l := { l with port := { l.port with ring := l.port.ring.receiveInput v } })
        ⟨receiveInput_receives h.receives hroom.1,h.performs⟩ hroom.2 hlater
    | service ios =>
      obtain ⟨l',k,hstep,hserve,hnext,_⟩ := h.service ha (hfit ios List.mem_cons_self)
      obtain ⟨l'',n',hrun,hend⟩ := ih hnext (hroom l'.port hserve) hlater
      refine ⟨l'',n',?_,hend⟩
      rw [linkRun,List.foldlM_cons,hstep]
      exact hrun
    | thread e =>
      obtain ⟨l',n',hrun,hend⟩ := ih (l := { l with mcu := l.mcu.turn e })
        ⟨h.receives,h.performs.turn e⟩ hroom hlater
      refine ⟨l',n',hrun,?_⟩
      rw [List.append_assoc] at hend
      exact hend

/-- Once all bytes are there, as many turns as there are frames left perform the rest. -/
theorem linkRun_drains {ios : Nat → FrameIo} (hfit : Fit fmtDouble orders ios) {k : Nat} {l : Link} {n : Nat}
    (h : Follows fmtDouble m orders frames l n turns []) (hk : frames.length ≤ n+k) :
    ∃ l' n', linkRun l (List.replicate k (.service ios)) = .ok l' ∧ frames.length ≤ n' ∧
      Follows fmtDouble m orders frames l' n' turns [] := by
  induction k generalizing l n with
  | zero => exact ⟨l,n,rfl,hk,h⟩
  | succ k ih =>
    obtain ⟨l',j,hstep,_,hnext,hprogress⟩ := h.service ha hfit
    have hmore : frames.length ≤ n+j+k := by
      by_cases hleft : frames.drop n = []
      · have hlen := congrArg List.length hleft
        simp only [List.length_drop,List.length_nil] at hlen
        omega
      · have hpos := hprogress rfl hleft
        omega
    obtain ⟨l'',n',hrun,hle,hend⟩ := ih hnext hmore
    refine ⟨l'',n',?_,hle,hend⟩
    rw [linkRun,List.replicate_succ,List.foldlM_cons,hstep]
    exact hrun

end Run

end Frames

/-- The module sends sound orders, for which the stack has room, as frames of up to 4096 bytes.
Their bytes may arrive in any interleaving with the turns of the service thread and of the other
threads that does not overfill the ring. At every moment the firmware has performed the first
orders in their order, between those turns and nothing else; once all bytes are there, as many
turns of the service thread as there are orders leave all of them performed and no byte behind. -/
theorem wifi_orders_performed (fmtDouble : CNumber → Text) (rxBuf processBuf : Nat → UInt8) (m : Mcu)
    (orders : List Order) (frames : List TxFrame) (ha : List.Forall₂ (Asks fmtDouble) orders frames)
    (es : List LinkEvent) (hbytes : arrived (es.filterMap LinkEvent.uart?) <+: stream frames)
    (hroom : NeverFull (.init rxBuf processBuf) (es.filterMap LinkEvent.uart?))
    (hfit : ∀ ios, .service ios ∈ es → Fit fmtDouble orders ios) :
    (∃ l n, linkRun ⟨.init rxBuf processBuf,m⟩ es = .ok l ∧
      Performs (orders.take n) (es.filterMap LinkEvent.thread?) m l.mcu) ∧
    (arrived (es.filterMap LinkEvent.uart?) = stream frames →
      ∀ ios, Fit fmtDouble orders ios → ∀ k, orders.length ≤ k →
        ∃ l, linkRun ⟨.init rxBuf processBuf,m⟩ (es ++ List.replicate k (.service ios)) = .ok l ∧
          Performs orders (es.filterMap LinkEvent.thread?) m l.mcu ∧
          l.port.rxIn = 0 ∧ l.port.ring.unread = []) := by
  obtain ⟨coming,hcoming⟩ := hbytes
  have hnone : Performs [] [] m m := ⟨[],rfl,rfl,rfl⟩
  have hstart : Follows fmtDouble m orders frames ⟨.init rxBuf processBuf,m⟩ 0 []
      (arrived (es.filterMap LinkEvent.uart?) ++ coming) := by
    rw [hcoming]
    exact ⟨receives_init rxBuf processBuf frames,hnone⟩
  obtain ⟨l,n,hrun,hfollows⟩ := linkRun_follows ha hstart hroom hfit
  rw [List.nil_append] at hfollows
  refine ⟨⟨l,n,hrun,hfollows.performs⟩,fun hall ios hios k hk => ?_⟩
  have hnil : coming = [] := by
    rw [hall] at hcoming
    exact List.append_right_eq_self.mp hcoming
  subst hnil
  obtain ⟨l',n',hdrain,hle,hend⟩ := linkRun_drains ha hios (k := k) hfollows (by
    rw [← ha.length_eq]
    omega)
  have hbytes := hend.receives.bytes
  rw [List.drop_eq_nil_of_le hle] at hbytes
  have hperf := hend.performs
  rw [List.take_of_length_le (by rw [ha.length_eq]; exact hle)] at hperf
  simp only [List.append_nil,stream,List.map_nil,List.flatten_nil,List.append_eq_nil_iff] at hbytes
  refine ⟨l',?_,hperf,?_,hbytes.2⟩
  · rw [linkRun,List.foldlM_append]
    rw [linkRun] at hrun
    rw [hrun]
    exact hdrain
  · have hlen := congrArg List.length hbytes.1
    simpa using hlen

/-- The cloud deletes the slave 20000001. -/
def deleteSlave : Order :=
  .delete (.object [("sub_id".toList,.string "20000001".toList),("tp".toList,.number (.ofInt 0))])

def openMain : Order := .issued [49,48,48,48,48,48,48,49] [⟨dpidControlState,dpTypeBool,[1]⟩]

theorem deleteSlave_sound : deleteSlave.Sound where
  octets := by
    simp only [CJson.strings,memberStrings,List.append_nil,List.nil_append,List.cons_append,
      List.forall_mem_cons]
    exact ⟨octets_letters (by decide),octets_letters (by decide),octets_letters (by decide),nofun⟩
  numbers := by
    simp only [CJson.numbers,memberNumbers,List.nil_append,List.append_nil,List.mem_singleton]
    rintro n rfl
    exact ⟨0,by decide,by decide,rfl⟩
  balanced := by
    simp only [CJson.strings,memberStrings,Balanced]
    decide
  named := by decide

theorem openMain_sound : openMain.Sound := ⟨by decide,by simp⟩

def pairFrames : List TxFrame :=
  [deleteSlave.frame (fun _ => ['0']) (by decide),openMain.frame (fun _ => ['0']) (by decide)]

theorem pairFrames_ask : List.Forall₂ (Asks fun _ => ['0']) [deleteSlave,openMain] pairFrames :=
  .cons (deleteSlave_sound.asks_frame _) (.cons (openMain_sound.asks_frame _) .nil)

/-- A main and a slave have been learned. -/
def pairedMcu : Mcu :=
  [hearsText mainLearnedText,hearsText slaveOnlineText].foldl Mcu.turn (linkOn 40000000 fun _ => 0).mcu

def twoOrdersEvents : List LinkEvent :=
  (stream pairFrames).map .receiveInput ++ [.thread .heartThread]

def smallStack : Nat → FrameIo := fun _ => ⟨.allOk,true,fun data => data.length < 1024⟩

theorem fit_smallStack : Fit (fun _ => ['0']) [deleteSlave,openMain] smallStack := by
  intro n o ho
  simp only [List.mem_cons,List.not_mem_nil,or_false] at ho
  rcases ho with rfl | rfl
  · change decide ((deleteSlave.data fun _ => ['0']).length < 1024) = true
    decide
  · trivial

theorem wifi_orders_performed_two :
    pairedMcu.station.gateway.globalDevice.id 2 = 20000001 ∧
    ∃ l, linkRun ⟨.init (fun _ => 0) fun _ => 0,pairedMcu⟩
        (twoOrdersEvents ++ List.replicate 2 (.service smallStack)) = .ok l ∧
      Performs [deleteSlave,openMain] [.heartThread] pairedMcu l.mcu ∧
      l.port.rxIn = 0 ∧ l.port.ring.unread = [] ∧ l.mcu.station.gateway.globalDevice.id 2 = 0 := by
  have hbytes : arrived (twoOrdersEvents.filterMap LinkEvent.uart?) = stream pairFrames := by decide
  obtain ⟨l,hrun,hperforms,hrxIn,hunread⟩ := (wifi_orders_performed (fun _ => ['0']) (fun _ => 0)
    (fun _ => 0) pairedMcu [deleteSlave,openMain] pairFrames pairFrames_ask twoOrdersEvents
    (by rw [hbytes]) (neverFull_of_short (Nat.le_refl _) (by decide)) (by simp [twoOrdersEvents])).2
    hbytes smallStack fit_smallStack 2 (Nat.le_refl _)
  have hslave : (linkRun ⟨.init (fun _ => 0) fun _ => 0,pairedMcu⟩
      (twoOrdersEvents ++ List.replicate 2 (.service smallStack))).toOption.map
      (fun l => l.mcu.station.gateway.globalDevice.id 2) = some 0 := by decide +kernel
  rw [hrun] at hslave
  exact ⟨by decide +kernel,l,hrun,hperforms,hrxIn,hunread,Option.some.inj hslave⟩

end GatewayF411
