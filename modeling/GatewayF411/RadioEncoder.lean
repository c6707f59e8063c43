import Mathlib.Algebra.GroupWithZero.Nat
import GatewayF411.Lib.Bytes
import GatewayF411.Lib.CFormat
import GatewayF411.RadioDecoder
import GatewayF411.RadioTransmit

/-!
The messages of `Radio_Encoder.c`: the text that `sprintf` writes, the two digits of the check
sum behind it, and what is read from them on the other side. `Self_Id` is an argument here, and
the buffer holds anything when `rt_malloc` returns it.
-/

set_option autoImplicit false

namespace GatewayF411
open Cells CText

namespace Encoder

def sprintfBuf (text : Text) (mem : Nat → UInt8) : Nat → UInt8 :=
  fun i => (text.map byteOf ++ [0]).getD i (mem i)

def radioFormat : List Conv :=
  [.lit '{',.int 8,.lit ',',.int 8,.lit ',',.int 3,.lit ',',.int 2,.lit ',',.int 0,.lit '}']

def gatewayFormat : List Conv :=
  [.lit 'G',.lit '{',.int 8,.lit ',',.int 8,.lit ',',.int 8,.lit ',',.int 3,.lit ',',.int 3,
    .lit ',',.int 2,.lit '}',.lit 'G']

def nextCounter (counter : UInt8) : UInt8 := if counter < 255 then counter+1 else 0

def hexDigit (n : UInt8) : UInt8 := if n < 10 then n+0x30 else n-10+0x41

section Send
variable (selfId targetId deviceId : UInt32) (counter command data rssi control value : UInt8)
  (mem : Nat → UInt8) (dev : TxDevice)

def radioText : Text :=
  sprintf radioFormat [asLong targetId,asLong selfId,(nextCounter counter).toNat,command.toNat,
    data.toNat]

def radioBuf : Nat → UInt8 :=
  let buf := sprintfBuf (radioText selfId targetId counter command data) mem
  let check := (slice buf 0 28).foldl (· + ·) 0
  let buf := Function.update buf 28 (hexDigit (check >>> 4))
  let buf := Function.update buf 29 (hexDigit (check &&& 0xf))
  let buf := Function.update buf 30 0x0d
  Function.update buf 31 0x0a

def radioSend : TxDevice := dev.radioSend (radioBuf selfId targetId counter command data mem)

def gatewayText : Text :=
  sprintf gatewayFormat [asLong targetId,asLong selfId,asLong deviceId,rssi.toNat,control.toNat,
    value.toNat]

def gatewayDataSend : TxDevice :=
  dev.gatewayDataSend (sprintfBuf (gatewayText selfId targetId deviceId rssi control value) mem)

end Send

def sent (dev : TxDevice) : List UInt8 := slice dev.txBuff 1 dev.txLen.toNat

def received (dev : TxDevice) (rest : List UInt8) : List UInt8 :=
  slice dev.txBuff 0 dev.txLen.toNat ++ rest

def rxLen (dev : TxDevice) : Nat := dev.txLen.toNat-1

def upperHex (n : Nat) : Char := "0123456789ABCDEF".toList.getD n '0'

def checkDigits (text : Text) : Text :=
  let sum := (text.map Char.toNat).sum % 256
  [upperHex (sum/16),upperHex (sum%16)]

section Received
variable {dev : TxDevice} {buf : Nat → UInt8} {length : UInt8}

theorem sent_normalSend (hlen : length.toNat < 255) :
    sent (dev.normalSend buf length) = slice buf 0 length.toNat := by
  have hlast : (length+1).toNat = length.toNat+1 := Bytes.toNat_succ hlen
  have hshift : slice (fun i => (dev.normalSend buf length).txBuff (1+i)) 0 length.toNat =
      slice (dev.normalSend buf length).txBuff (1+0) (1+length.toNat) := slice_shift 1
  rw [sent,show (dev.normalSend buf length).txLen = length+1 from rfl,hlast,Nat.add_comm,← hshift]
  refine slice_congr fun i _ hi => ?_
  have hne : 1+i ≠ 0 := by omega
  have hle : 1+i ≤ length.toNat := by omega
  simp only [TxDevice.normalSend,if_neg hne,if_pos hle,Nat.add_sub_cancel_left]

theorem received_eq (hlen : 0 < dev.txLen.toNat) (rest : List UInt8) :
    received dev rest = dev.txBuff 0 :: (sent dev ++ rest) := by
  rw [received,slice_cons hlen]
  rfl

theorem cString_received {text : Text} {more : List UInt8} (hlen : 0 < dev.txLen.toNat)
    (hsent : sent dev = text.map byteOf ++ more) (htext : ∀ c ∈ text, IsByte c) (rest : List UInt8) :
    ∃ after, cString (received dev rest) 1 = text ++ after := by
  rw [cString,received_eq hlen,List.drop_succ_cons,List.drop_zero,hsent,List.append_assoc,
    cstring_bytes htext]
  exact ⟨_,rfl⟩

theorem charAt_received (hlen : 0 < dev.txLen.toNat) {i : Nat} {c : Char}
    (hsent : (sent dev)[i]? = some (byteOf c)) (hc : IsByte c) (rest : List UInt8) :
    charAt (received dev rest) (i+1) = c := by
  have hi : i < (sent dev).length := (List.getElem?_eq_some_iff.mp hsent).1
  have hget : (received dev rest)[i+1]? = some (byteOf c) := by
    rw [received_eq hlen,List.getElem?_cons_succ,List.getElem?_append_left hi,hsent]
  rw [charAt,List.getD_eq_getElem?_getD,hget,Option.getD_some,byteOf_toNat hc,Char.ofNat_toNat]

end Received

theorem checkSum_toNat (l : List UInt8) (a : UInt8) :
    (l.foldl (· + ·) a).toNat = (a.toNat+(l.map UInt8.toNat).sum) % 256 := by
  induction l generalizing a with
  | nil =>
    have hlt := a.toNat_lt
    simp only [List.foldl_nil,List.map_nil,List.sum_nil,Nat.add_zero]
    omega
  | cons b l ih =>
    rw [List.foldl_cons,ih,UInt8.toNat_add,List.map_cons,List.sum_cons]
    omega

theorem hexDigit_byte : ∀ n : Fin 256,
    hexDigit (UInt8.ofNat n >>> 4) = byteOf (upperHex (n.val/16)) ∧
    hexDigit (UInt8.ofNat n &&& 0xf) = byteOf (upperHex (n.val%16)) := by
  decide +kernel

/-- The two bytes that `RadioSend` computes are the digits of the sum. -/
theorem hexDigit_check {text : Text} (htext : ∀ c ∈ text, IsByte c) :
    [hexDigit ((text.map byteOf).foldl (· + ·) 0 >>> 4),
      hexDigit ((text.map byteOf).foldl (· + ·) 0 &&& 0xf)] = (checkDigits text).map byteOf := by
  have hsum : ((text.map byteOf).foldl (· + ·) (0 : UInt8)).toNat =
      (text.map Char.toNat).sum % 256 := by
    rw [checkSum_toNat,List.map_map]
    have hmap : text.map (UInt8.toNat ∘ byteOf) = text.map Char.toNat :=
      List.map_congr_left fun c hc => byteOf_toNat (htext c hc)
    rw [hmap]
    simp
  have hbyte := hexDigit_byte ⟨(text.map Char.toNat).sum % 256,Nat.mod_lt _ (by decide)⟩
  simp only [← hsum,UInt8.ofNat_toNat] at hbyte
  rw [hbyte.1,hbyte.2,hsum]
  rfl

theorem sprintfBuf_slice (text : Text) (mem : Nat → UInt8) :
    slice (sprintfBuf text mem) 0 text.length = text.map byteOf := by
  have hholds := (holds_append.mp (holds_getD (text.map byteOf ++ [0]) mem)).1
  have hslice := slice_of_holds hholds
  rwa [Nat.zero_add,List.length_map] at hslice

theorem asLong_of_lt {v : UInt32} (h : v.toNat < 2^31) : asLong v = (v.toNat : Int) := if_pos h

theorem nextCounter_toNat (counter : UInt8) : (nextCounter counter).toNat = (counter.toNat+1) % 256 := by
  have hlt := counter.toNat_lt
  unfold nextCounter
  split
  · rename_i h
    have h' : counter.toNat < 255 := UInt8.lt_iff_toNat_lt.mp h
    rw [Bytes.toNat_succ h',Nat.mod_eq_of_lt (by omega)]
  · rename_i h
    have h' : ¬ counter.toNat < 255 := fun hc => h (UInt8.lt_iff_toNat_lt.mpr hc)
    have htop : counter.toNat+1 = 256 := by omega
    rw [htop]
    rfl

theorem clampLong_toNat {n : Nat} (h : n < 2^31) : clampLong n = n := by
  unfold clampLong
  omega

section Texts
variable {selfId targetId deviceId : UInt32} {command data value : UInt8}

theorem radioText_length (ht : targetId.toNat ≤ 99999999) (hs : selfId.toNat ≤ 99999999)
    (hc : command.toNat ≤ 99) (hd : data.toNat ≤ 9) (counter : UInt8) :
    (radioText selfId targetId counter command data).length = 28 := by
  have hcounter := (nextCounter counter).toNat_lt
  rw [radioText,asLong_of_lt (by omega),asLong_of_lt (by omega)]
  simp only [radioFormat,sprintf,List.length_cons,List.length_append,List.length_nil,
    length_padLong (w := 8) (by decide) (show targetId.toNat < 10^8 by omega),
    length_padLong (w := 8) (by decide) (show selfId.toNat < 10^8 by omega),
    length_padLong (w := 3) (by decide) (show (nextCounter counter).toNat < 10^3 by omega),
    length_padLong (w := 2) (by decide) (show command.toNat < 10^2 by omega),
    length_padLong_digit (show data.toNat < 10 by omega)]

theorem gatewayText_length (ht : targetId.toNat ≤ 99999999) (hs : selfId.toNat ≤ 99999999)
    (hd : deviceId.toNat ≤ 99999999) (hv : value.toNat ≤ 99) (rssi control : UInt8) :
    (gatewayText selfId targetId deviceId rssi control value).length = 41 := by
  have hrssi := rssi.toNat_lt
  have hcontrol := control.toNat_lt
  rw [gatewayText,asLong_of_lt (by omega),asLong_of_lt (by omega),asLong_of_lt (by omega)]
  simp only [gatewayFormat,sprintf,List.length_cons,List.length_append,List.length_nil,
    length_padLong (w := 8) (by decide) (show targetId.toNat < 10^8 by omega),
    length_padLong (w := 8) (by decide) (show selfId.toNat < 10^8 by omega),
    length_padLong (w := 8) (by decide) (show deviceId.toNat < 10^8 by omega),
    length_padLong (w := 3) (by decide) (show rssi.toNat < 10^3 by omega),
    length_padLong (w := 3) (by decide) (show control.toNat < 10^3 by omega),
    length_padLong (w := 2) (by decide) (show value.toNat < 10^2 by omega)]

end Texts

/-- The buffer of `RadioSend` when the text has the length that the check sum counts on. -/
theorem radioBuf_slice {selfId targetId : UInt32} {counter command data : UInt8}
    (hlen : (radioText selfId targetId counter command data).length = 28) (mem : Nat → UInt8) :
    slice (radioBuf selfId targetId counter command data mem) 0 32 =
      (radioText selfId targetId counter command data).map byteOf ++
        ((checkDigits (radioText selfId targetId counter command data)).map byteOf ++
          ['\r','\n'].map byteOf) := by
  have htext : ∀ c ∈ radioText selfId targetId counter command data, IsByte c :=
    sprintf_isByte (by decide)
  have hslice := sprintfBuf_slice (radioText selfId targetId counter command data) mem
  rw [hlen] at hslice
  rw [← hexDigit_check htext,← hslice]
  unfold radioBuf
  generalize sprintfBuf (radioText selfId targetId counter command data) mem = buf
  dsimp only
  rw [slice_snoc (Nat.zero_le 31),slice_snoc (Nat.zero_le 30),slice_snoc (Nat.zero_le 29),
    slice_snoc (Nat.zero_le 28)]
  have hcr : byteOf '\r' = 0x0d := rfl
  have hlf : byteOf '\n' = 0x0a := rfl
  simp [slice_update,Function.update,hcr,hlf]

section Frames
variable {selfId targetId deviceId : UInt32} {command data value : UInt8}
  (ht : targetId.toNat ≤ 99999999) (hs : selfId.toNat ≤ 99999999)
include ht hs

/-- The fields that `NormalSolve` reads from a message of `RadioSend`. -/
theorem radioText_fields (hc : command.toNat ≤ 99) (hd : data.toNat ≤ 9) (counter : UInt8)
    (after : Text) :
    sscanf fiveFields (radioText selfId targetId counter command data ++ after) =
      [(targetId.toNat : Int),selfId.toNat,((counter.toNat+1) % 256 : Nat),command.toNat,
        data.toNat] := by
  have hlt := Nat.mod_lt (counter.toNat+1) (show 256 > 0 by decide)
  rw [radioText,asLong_of_lt (by omega),asLong_of_lt (by omega),nextCounter_toNat]
  refine sscanf_sprintf (show delimited radioFormat = true by decide) rfl ?_ after
  simp only [List.mem_cons,List.not_mem_nil,or_false]
  rintro v (rfl | rfl | rfl | rfl | rfl)
  all_goals exact clampLong_toNat (by omega)

theorem gatewayText_fields (hd : deviceId.toNat ≤ 99999999) (hv : value.toNat ≤ 99)
    (rssi control : UInt8) (after : Text) :
    sscanf (gatewayFormat.map Conv.directive)
        (gatewayText selfId targetId deviceId rssi control value ++ after) =
      [(targetId.toNat : Int),selfId.toNat,deviceId.toNat,rssi.toNat,control.toNat,value.toNat] := by
  have hrssi := rssi.toNat_lt
  have hcontrol := control.toNat_lt
  rw [gatewayText,asLong_of_lt (by omega),asLong_of_lt (by omega),asLong_of_lt (by omega)]
  refine sscanf_sprintf (show delimited gatewayFormat = true by decide) rfl ?_ after
  simp only [List.mem_cons,List.not_mem_nil,or_false]
  rintro v (rfl | rfl | rfl | rfl | rfl | rfl)
  all_goals exact clampLong_toNat (by omega)

theorem sent_radioSend (hc : command.toNat ≤ 99) (hd : data.toNat ≤ 9) (counter : UInt8)
    (mem : Nat → UInt8) (dev : TxDevice) :
    sent (radioSend selfId targetId counter command data mem dev) =
      (radioText selfId targetId counter command data).map byteOf ++
        ((checkDigits (radioText selfId targetId counter command data)).map byteOf ++
          ['\r','\n'].map byteOf) :=
  (sent_normalSend (by decide)).trans (radioBuf_slice (radioText_length ht hs hc hd counter) mem)

theorem sent_gatewayDataSend (hd : deviceId.toNat ≤ 99999999) (hv : value.toNat ≤ 99)
    (rssi control : UInt8) (mem : Nat → UInt8) (dev : TxDevice) :
    sent (gatewayDataSend selfId targetId deviceId rssi control value mem dev) =
      (gatewayText selfId targetId deviceId rssi control value).map byteOf := by
  rw [← sprintfBuf_slice _ mem,gatewayText_length ht hs hd hv]
  exact sent_normalSend (by decide)

end Frames

theorem gatewayText_getLast (selfId targetId deviceId : UInt32) (rssi control value : UInt8) :
    (gatewayText selfId targetId deviceId rssi control value).getLast? = some 'G' := by
  simp [gatewayText,gatewayFormat,sprintf,List.getLast?_cons,List.getLast?_append]

end Encoder

open Encoder in
/-- A message of `RadioSend` has 32 bytes, the check sum among them, and `NormalSolve` reads from
it what was sent. A message of `GatewayDataSend` has 41 bytes, and its six fields are those that
were sent. -/
theorem radio_message_roundTrip {selfId targetId deviceId : UInt32} {command data value : UInt8}
    (ht : targetId.toNat ≤ 99999999) (hs : selfId.toNat ≤ 99999999)
    (hd : deviceId.toNat ≤ 99999999) (hcommand : command.toNat ≤ 99) (hdata : data.toNat ≤ 9)
    (hvalue : value.toNat ≤ 99) (counter rssi control : UInt8) (mem : Nat → UInt8) (dev : TxDevice)
    (rest : List UInt8) (junk : Message) :
    let text := radioText selfId targetId counter command data
    let normal := Encoder.radioSend selfId targetId counter command data mem dev
    let gateway := Encoder.gatewayDataSend selfId targetId deviceId rssi control value mem dev
    (text.length = 28 ∧ (sent normal).length = 32 ∧
      sent normal = (text ++ checkDigits text ++ ['\r','\n']).map byteOf ∧
      charAt (received normal rest) (rxLen normal) = '\n' ∧
      charAt (received normal rest) (rxLen normal-1) = '\r' ∧
      parseNormal (normalFields (received normal rest)) junk =
        { junk with
          targetId := targetId.toNat
          fromId := selfId.toNat
          counter := ((counter.toNat+1) % 256 : Nat)
          command := command.toNat
          data := data.toNat }) ∧
    (sent gateway).length = 41 ∧ (sent gateway).getLast? = some (byteOf 'G') ∧
      sscanf (gatewayFormat.map Conv.directive) (cString (received gateway rest) 1) =
        [(targetId.toNat : Int),selfId.toNat,deviceId.toNat,rssi.toNat,control.toNat,value.toNat] := by
  intro text normal gateway
  have hlen : text.length = 28 := radioText_length ht hs hcommand hdata counter
  have hnormal : sent normal = text.map byteOf ++ ((checkDigits text).map byteOf ++
      ['\r','\n'].map byteOf) := sent_radioSend ht hs hcommand hdata counter mem dev
  have hgateway : sent gateway =
      (gatewayText selfId targetId deviceId rssi control value).map byteOf :=
    sent_gatewayDataSend ht hs hd hvalue rssi control mem dev
  have hnormalLen : normal.txLen = 33 := rfl
  have hgatewayLen : gateway.txLen = 42 := rfl
  refine ⟨⟨hlen,?_,?_,?_,?_,?_⟩,?_,?_,?_⟩
  · rw [hnormal]
    simp [hlen,checkDigits]
  · rw [hnormal]
    simp
  · refine charAt_received (i := 31) (by rw [hnormalLen]; decide) ?_ (by decide) rest
    rw [hnormal]
    simp [hlen,checkDigits]
  · refine charAt_received (i := 30) (by rw [hnormalLen]; decide) ?_ (by decide) rest
    rw [hnormal]
    simp [hlen,checkDigits]
  · obtain ⟨after,hafter⟩ := cString_received (by rw [hnormalLen]; decide) hnormal
      (sprintf_isByte (by decide)) rest
    rw [normalFields,hafter,radioText_fields ht hs hcommand hdata]
    rfl
  · rw [hgateway,List.length_map,gatewayText_length ht hs hd hvalue]
  · rw [hgateway,List.getLast?_map,gatewayText_getLast]
    rfl
  · rw [← List.append_nil (List.map _ _)] at hgateway
    obtain ⟨after,hafter⟩ := cString_received (by rw [hgatewayLen]; decide) hgateway
      (sprintf_isByte (by decide)) rest
    rw [hafter,gatewayText_fields ht hs hd hvalue]

open Encoder in
/-- The largest values that fit, from a gateway that sends to itself. -/
theorem radio_message_roundTrip_largest :
    (99999999 : UInt32).toNat ≤ 99999999 ∧ (99 : UInt8).toNat ≤ 99 ∧ (9 : UInt8).toNat ≤ 9 ∧
    (sent (Encoder.radioSend 99999999 99999999 255 99 9 (fun _ => 0)
      ⟨.started 0 0,fun _ => 0,[]⟩)).length = 32 ∧
    parseNormal (normalFields (received (Encoder.radioSend 99999999 99999999 255 99 9 (fun _ => 0)
      ⟨.started 0 0,fun _ => 0,[]⟩) [])) ⟨0,0,0,0,0,0,0,0,0⟩ =
        ⟨0,0,99999999,99999999,0,0,99,9,0⟩ ∧
    (sent (Encoder.gatewayDataSend 99999999 99999999 99999999 255 255 99 (fun _ => 0)
      ⟨.started 0 0,fun _ => 0,[]⟩)).length = 41 := by
  have hid : (99999999 : UInt32).toNat ≤ 99999999 := by decide
  have hcommand : (99 : UInt8).toNat ≤ 99 := by decide
  have hdata : (9 : UInt8).toNat ≤ 9 := by decide
  have h := radio_message_roundTrip hid hid hid hcommand hdata hcommand 255 255 255 (fun _ => 0)
    ⟨.started 0 0,fun _ => 0,[]⟩ [] ⟨0,0,0,0,0,0,0,0,0⟩
  exact ⟨hid,hcommand,hdata,h.1.2.1,h.1.2.2.2.2.2,h.2.1⟩

end GatewayF411
