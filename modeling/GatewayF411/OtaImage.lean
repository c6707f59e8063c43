import GatewayF411.Lib.Chunks
import GatewayF411.Ota

/-!
What one update session stores. The packets of the session are the pieces of an image,
delivered in order with repeats; `update_file_cur_size` still has the value that an
earlier session left, because `wifi_ota_begin` does not reset it.
-/

set_option autoImplicit false

namespace GatewayF411
open Chunks

/-- An `UPDATE_START` frame for an image of `n` bytes, with a successful erase. -/
structure StartsUpdate (n : Nat) (f : OtaFrame) : Prop where
  cmd : f.buf frameType = updateStartCmd
  length : (word32 f.buf dataStart).toNat = n
  found : f.io.found = true
  erased : f.io.eraseOk = true

/-- An `UPDATE_TRANS` frame with the bytes `data` at `position`, with a successful write. -/
structure CarriesPacket (position : Nat) (data : List UInt8) (f : OtaFrame) : Prop where
  cmd : f.buf frameType = updateTransCmd
  total : (totalLen f.buf).toNat = data.length+4
  position : (word32 f.buf dataStart).toNat = position
  bytes : ∀ i, i < data.length → data[i]? = some (f.buf (dataStart+4+i))
  written : f.io.writeOk = true

def CarriesChunk (chunks : List (List UInt8)) (f : OtaFrame) (k : Nat) : Prop :=
  ∃ data, chunks[k]? = some data ∧ CarriesPacket (offset chunks k) data f

def Ota.firstBytes (s : Ota) (n : Nat) : List UInt8 := (List.range n).map s.flash

theorem firstBytes_eq_iff (s : Ota) (image : List UInt8) :
    s.firstBytes image.length = image ↔ ∀ a, a < image.length → image[a]? = some (s.flash a) := by
  constructor
  · intro h a ha
    rw [← h]
    simp [Ota.firstBytes,ha]
  · intro h
    refine List.ext_getElem? fun a => ?_
    by_cases ha : a < image.length
    · rw [h a ha]
      simp [Ota.firstBytes,ha]
    · have hnone : image[a]? = none := by simp; omega
      rw [hnone]
      simp [Ota.firstBytes]
      omega

/-- The session after `k` pieces, when it found the counter at `c`. -/
structure Receiving (chunks : List (List UInt8)) (c k : Nat) (s : Ota) : Prop where
  flag : s.firmUpdateFlag = updateStartCmd
  size : s.firmSize = 1024
  part : s.dlPart = some downloadPart
  cur : s.updateFileCurSize.toNat = reached chunks c k
  flash : ∀ a, a < chunks.flatten.length → some (s.flash a) =
    if c ≤ a ∧ a < reached chunks c k then chunks.flatten[a]? else some 0xff

theorem start_receiving (s : Ota) {chunks : List (List UInt8)} {f : OtaFrame}
    (hfit : chunks.flatten.length ≤ downloadPart.len.toNat)
    (h : StartsUpdate chunks.flatten.length f) :
    Receiving chunks s.updateFileCurSize.toNat 0 (otaStep s f) := by
  have hle : ¬ downloadPart.len < word32 f.buf dataStart := by
    rw [UInt32.lt_iff_toNat_lt,h.length]
    omega
  have hstep : otaStep s f =
      { s with firmSize := 1024, firmLength := word32 f.buf dataStart,
               firmUpdateFlag := updateStartCmd,
               updateFileTotalSize := word32 f.buf dataStart, dlPart := some downloadPart,
               flash := overwrite 0 chunks.flatten.length (fun _ => 0xff) f.io.left } := by
    simp [otaStep,dataHandle,h.cmd,updateStart,wifiOtaBegin,falPartitionFind,falPartitionErase,
      h.found,h.erased,hle,h.length,packageSize,firmSizeOf]
  rw [hstep]
  refine ⟨rfl,rfl,rfl,reached_zero.symm,fun a ha => ?_⟩
  have hempty : ¬ (s.updateFileCurSize.toNat ≤ a ∧ a < s.updateFileCurSize.toNat) := by omega
  have hin : 0 ≤ a ∧ a < 0+chunks.flatten.length := by omega
  rw [reached_zero,if_neg hempty]
  simp only [overwrite,if_pos hin]

section Packet
variable {chunks : List (List UInt8)} {c k : Nat} {s : Ota} {f : OtaFrame} {data : List UInt8}
  {position : Nat}

theorem Receiving.receive (h : Receiving chunks c k s) (hp : CarriesPacket position data f)
    (hsize : 1 ≤ data.length ∧ data.length ≤ 1024) :
    otaStep s f = (wifiOtaReceive f.io (fun i => f.buf (dataStart+4+i)) (word32 f.buf dataStart)
      (UInt32.ofNat data.length) s).2 := by
  have hne : totalLen f.buf ≠ 4 := by
    intro heq
    have htotal := hp.total
    rw [heq] at htotal
    have hfour : (4 : UInt16).toNat = 4 := rfl
    omega
  have hfits : (totalLen f.buf).toNat ≤ s.firmSize.toNat+4 := by
    rw [hp.total,h.size]
    have hk : (1024 : UInt16).toNat = 1024 := rfl
    omega
  have hlen : (totalLen f.buf-4).toUInt32 = UInt32.ofNat data.length := by
    apply UInt32.toNat_inj.mp
    have hle : (4 : UInt16) ≤ totalLen f.buf := by
      rw [UInt16.le_iff_toNat_le,hp.total]
      have hfour : (4 : UInt16).toNat = 4 := rfl
      omega
    rw [UInt16.toNat_toUInt32,UInt16.toNat_sub_of_le _ _ hle,hp.total,UInt32.toNat_ofNat']
    have hfour : (4 : UInt16).toNat = 4 := rfl
    omega
  have hcmd : f.buf frameType ≠ updateStartCmd := by
    rw [hp.cmd]
    decide
  rw [otaStep,dataHandle,if_neg hcmd,if_pos hp.cmd,updateTrans_packet h.flag hne hfits,hlen]

theorem Receiving.dropped (h : Receiving chunks c k s) (hp : CarriesPacket position data f)
    (hsize : 1 ≤ data.length ∧ data.length ≤ 1024) (hne : reached chunks c k ≠ position) :
    otaStep s f = s := by
  have hcur : s.updateFileCurSize ≠ word32 f.buf dataStart := by
    intro heq
    rw [← h.cur,heq,hp.position] at hne
    exact hne rfl
  rw [h.receive hp hsize]
  simp [wifiOtaReceive,hcur]

theorem Receiving.taken (h : Receiving chunks c k s) (hp : CarriesPacket position data f)
    (hsize : 1 ≤ data.length ∧ data.length ≤ 1024) (heq : reached chunks c k = position)
    (hfit : position+data.length ≤ downloadPart.len.toNat) :
    otaStep s f =
      { s with flash := overwrite position data.length (fun i => f.buf (dataStart+4+i)) s.flash,
               updateFileCurSize := UInt32.ofNat (position+data.length) } := by
  have hcur : s.updateFileCurSize = word32 f.buf dataStart := by
    apply UInt32.toNat_inj.mp
    rw [h.cur,heq,hp.position]
  have hpos : s.updateFileCurSize.toNat = position := h.cur.trans heq
  have hdl : downloadPart.len.toNat = 524288 := rfl
  have hlen : (UInt32.ofNat data.length).toNat = data.length := by
    rw [UInt32.toNat_ofNat']
    omega
  have hadd : s.updateFileCurSize+UInt32.ofNat data.length =
      UInt32.ofNat (position+data.length) := by
    apply UInt32.toNat_inj.mp
    rw [UInt32.toNat_add,hpos,hlen,UInt32.toNat_ofNat']
  have hle : ¬ downloadPart.len < UInt32.ofNat (position+data.length) := by
    rw [UInt32.lt_iff_toNat_lt,UInt32.toNat_ofNat']
    omega
  rw [h.receive hp hsize]
  simp only [wifiOtaReceive,falPartitionWrite,hcur.symm,ne_eq,not_true_eq_false,if_false,h.part,hle,
    hp.written,if_true,hpos,hlen,hadd]

theorem Receiving.next (hsize : ∀ p ∈ chunks, 1 ≤ p.length ∧ p.length ≤ 1024)
    (hfit : chunks.flatten.length ≤ downloadPart.len.toNat) (hk : k < chunks.length)
    (hf : CarriesChunk chunks f k) (h : Receiving chunks c k s) :
    Receiving chunks c (k+1) (otaStep s f) := by
  obtain ⟨data,hdata,hp⟩ := hf
  have hlen := hsize data (List.mem_of_getElem? hdata)
  have hpos : ∀ p ∈ chunks, 0 < p.length := fun p hmem => (hsize p hmem).1
  have hsucc := offset_succ hdata
  have hend : offset chunks (k+1) ≤ chunks.flatten.length := by
    rw [← offset_length]
    exact offset_mono hk
  by_cases heq : reached chunks c k = offset chunks k
  · have hnext := reached_take hk hpos heq
    have hle : c ≤ reached chunks c k := le_reached
    have hdl : downloadPart.len.toNat = 524288 := rfl
    rw [h.taken hp hlen heq (by omega)]
    refine ⟨h.flag,h.size,h.part,?_,fun a ha => ?_⟩
    · rw [UInt32.toNat_ofNat',hnext,hsucc]
      omega
    · rw [hnext,hsucc]
      by_cases hin : offset chunks k ≤ a ∧ a < offset chunks k+data.length
      · have hbyte := hp.bytes (a-offset chunks k) (by omega)
        have hwhole := flatten_getElem? (k := k) (i := a-offset chunks k) hdata (by omega)
        rw [Nat.add_sub_cancel' hin.1] at hwhole
        rw [if_pos (by omega),hwhole,hbyte]
        simp only [overwrite,if_pos hin]
      · have hold := h.flash a ha
        rw [heq] at hold
        have hsame : (c ≤ a ∧ a < offset chunks k+data.length) ↔
            (c ≤ a ∧ a < offset chunks k) := by omega
        simp only [overwrite,if_neg hin,hsame]
        exact hold
  · rw [h.dropped hp hlen heq]
    have hmiss := reached_miss heq
    refine ⟨h.flag,h.size,h.part,?_,?_⟩
    · rw [hmiss]
      exact h.cur
    · rw [hmiss]
      exact h.flash

theorem Receiving.again {i : Nat} (hsize : ∀ p ∈ chunks, 1 ≤ p.length ∧ p.length ≤ 1024)
    (hi : i < k) (hk : k ≤ chunks.length) (hf : CarriesChunk chunks f i)
    (h : Receiving chunks c k s) : Receiving chunks c k (otaStep s f) := by
  obtain ⟨data,hdata,hp⟩ := hf
  have hlen := hsize data (List.mem_of_getElem? hdata)
  have hne : reached chunks c k ≠ offset chunks i :=
    reached_ne (fun p hmem => (hsize p hmem).1) hi hk
  rw [h.dropped hp hlen hne]
  exact h

end Packet

/-- Whatever an earlier session left, the image is stored if and only if the bytes that
the leftover counter makes the module skip are those of an erased flash. -/
theorem ota_image_stored_iff (s : Ota) (image : List UInt8) (chunks : List (List UInt8))
    (hcut : chunks.flatten = image) (hsize : ∀ p ∈ chunks, 1 ≤ p.length ∧ p.length ≤ 1024)
    (hfit : image.length ≤ downloadPart.len.toNat) (start : OtaFrame)
    (hstart : StartsUpdate image.length start) (packets : List OtaFrame)
    (hpackets : Delivery (CarriesChunk chunks) chunks.length 0 packets) :
    (packets.foldl otaStep (otaStep s start)).firstBytes image.length = image ↔
      ∀ a, a < skipped chunks s.updateFileCurSize.toNat → image[a]? = some 0xff := by
  subst hcut
  have hr : Receiving chunks s.updateFileCurSize.toNat chunks.length
      (packets.foldl otaStep (otaStep s start)) :=
    hpackets.foldl (fun k t f hk hf h => h.next hsize hfit hk hf)
      (fun i k t f hi hk hf h => h.again hsize hi hk hf) (start_receiving s hfit hstart)
  rw [firstBytes_eq_iff]
  constructor
  · intro h a hskip
    have ha : a < chunks.flatten.length := Nat.lt_of_lt_of_le hskip skipped_le
    have hflash := hr.flash a ha
    rw [if_neg (by rw [reached_length ha]; omega)] at hflash
    rw [h a ha,hflash]
  · intro h a ha
    have hflash := hr.flash a ha
    by_cases hskip : a < skipped chunks s.updateFileCurSize.toNat
    · rw [if_neg (by rw [reached_length ha]; omega)] at hflash
      rw [h a hskip,hflash]
    · rw [if_pos ((reached_length ha).mpr hskip)] at hflash
      exact hflash.symm

/-- Three bytes in two packets, the first of them sent again at the end. -/
def shortUpdate : List OtaFrame :=
  [otaFrame updateTransCmd [0,0,0,0,0xa5,0x5a],otaFrame updateTransCmd [0,0,0,2,0x01],
    otaFrame updateTransCmd [0,0,0,0,0xa5,0x5a]]

theorem ota_image_stored_short :
    (shortUpdate.foldl otaStep (otaStep (.boot fun _ => 0)
      (otaFrame updateStartCmd [0,0,0,3]))).firstBytes 3 = [0xa5,0x5a,0x01] ↔
      ∀ a, a < skipped [[0xa5,0x5a],[(0x01 : UInt8)]] 0 →
        ([0xa5,0x5a,0x01] : List UInt8)[a]? = some 0xff := by
  have hfirst : CarriesChunk [[0xa5,0x5a],[0x01]] (otaFrame updateTransCmd [0,0,0,0,0xa5,0x5a]) 0 :=
    ⟨[0xa5,0x5a],rfl,⟨by decide,by decide,by decide,by decide,rfl⟩⟩
  have hsecond : CarriesChunk [[0xa5,0x5a],[0x01]] (otaFrame updateTransCmd [0,0,0,2,0x01]) 1 :=
    ⟨[0x01],rfl,⟨by decide,by decide,by decide,by decide,rfl⟩⟩
  exact ota_image_stored_iff (.boot fun _ => 0) [0xa5,0x5a,0x01] [[0xa5,0x5a],[0x01]] rfl (by decide)
    (by decide) _ ⟨by decide,by decide,rfl,rfl⟩ shortUpdate
    (.next (by decide) hfirst (.next (by decide) hsecond (.again (by decide) hfirst .done)))

/-- A session that has stored its only byte and is not ended. -/
def abortedUpdate : List OtaFrame :=
  [otaFrame updateStartCmd [0,0,0,1],otaFrame updateTransCmd [0,0,0,0,0x5a]]

theorem ota_image_counterexample :
    ¬ ∀ (flash : Nat → UInt8) (earlier : List OtaFrame) (image : List UInt8)
        (chunks : List (List UInt8)), chunks.flatten = image →
      (∀ p ∈ chunks, 1 ≤ p.length ∧ p.length ≤ 1024) →
      image.length ≤ downloadPart.len.toNat →
      ∀ start, StartsUpdate image.length start →
      ∀ packets, Delivery (CarriesChunk chunks) chunks.length 0 packets →
        (packets.foldl otaStep (otaStep (earlier.foldl otaStep (.boot flash)) start)).firstBytes
          image.length = image := by
  intro h
  have hchunk : CarriesChunk [[0xa5]] (otaFrame updateTransCmd [0,0,0,0,0xa5]) 0 :=
    ⟨[0xa5],rfl,⟨by decide,by decide,by decide,by decide,rfl⟩⟩
  have hstored := h (fun _ => 0) abortedUpdate [0xa5] [[0xa5]] rfl (by decide) (by decide)
    (otaFrame updateStartCmd [0,0,0,1]) ⟨by decide,by decide,rfl,rfl⟩
    [otaFrame updateTransCmd [0,0,0,0,0xa5]] (.next (by decide) hchunk .done)
  exact absurd hstored (by decide)

end GatewayF411
