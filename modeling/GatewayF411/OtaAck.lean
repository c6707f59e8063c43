import GatewayF411.OtaCommit

/-!
The replies to the packets of an update. `mcu_firm_update_handle` reports success whatever
`wifi_ota_receive` did, so a reply is true only when the packet was really written, now or
earlier in the session.
-/

set_option autoImplicit false

namespace GatewayF411
open Runs

def packetLen (f : OtaFrame) : Nat := (totalLen f.buf).toNat-4

def packetByte (f : OtaFrame) (i : Nat) : UInt8 := f.buf (dataStart+4+i)

def packetOffset (f : OtaFrame) : UInt32 := word32 f.buf dataStart

def HasPacket (f : OtaFrame) : Prop :=
  f.buf frameType = updateTransCmd ∧ 4 < (totalLen f.buf).toNat

def Acknowledged (s : Ota) (f : OtaFrame) : Prop :=
  .writeFrame updateTransCmd [] ∈ (dataHandle s f).1

/-- The bytes of the packet are in the partition, written in the current session. -/
def PacketStored (w : Watched) (f : OtaFrame) : Prop :=
  ∀ i, i < packetLen f → w.ota.flash ((packetOffset f).toNat+i) = packetByte f i ∧
    Written w.session ((packetOffset f).toNat+i)

/-- A reply means that the packet is stored; one ahead of the written prefix, or one whose
write fails, gets none. -/
def AckTruthful (w : Watched) (f : OtaFrame) : Prop :=
  HasPacket f →
  (Acknowledged w.ota f → PacketStored (watchedStep w f) f) ∧
  (w.ota.updateFileCurSize < packetOffset f → ¬ Acknowledged w.ota f) ∧
  ((∃ addr size, .write addr size false ∈ (dataHandle w.ota f).1) → ¬ Acknowledged w.ota f)

/-- The partition was found, the packet fits behind the written prefix, the write succeeds. -/
def CanWrite (s : Ota) (f : OtaFrame) : Prop :=
  s.dlPart ≠ none ∧ s.updateFileCurSize.toNat+packetLen f ≤ downloadPart.len.toNat ∧
    f.io.writeOk = true

/-- A packet that the running update takes goes to the end of the written prefix and can be
written there, or repeats what the session has already written. -/
def AckBacked (w : Watched) (f : OtaFrame) : Prop :=
  HasPacket f → w.ota.firmUpdateFlag = updateStartCmd →
  (totalLen f.buf).toNat ≤ w.ota.firmSize.toNat+4 →
  (packetOffset f = w.ota.updateFileCurSize ∧ CanWrite w.ota f) ∨
  (w.openedAt ≤ packetOffset f ∧
    (packetOffset f).toNat+packetLen f ≤ w.ota.updateFileCurSize.toNat ∧
    ∀ i, i < packetLen f → w.ota.flash ((packetOffset f).toNat+i) = packetByte f i)

theorem HasPacket.len_pos {f : OtaFrame} (h : HasPacket f) : 0 < packetLen f := by
  have hlen := h.2
  unfold packetLen
  omega

theorem HasPacket.len_eq {f : OtaFrame} (h : HasPacket f) :
    (totalLen f.buf-4).toUInt32.toNat = packetLen f := by
  have hle : (4 : UInt16) ≤ totalLen f.buf := UInt16.le_iff_toNat_le.mpr (Nat.le_of_lt h.2)
  rw [UInt16.toNat_toUInt32,UInt16.toNat_sub_of_le _ _ hle]
  rfl

theorem packetLen_lt (f : OtaFrame) : packetLen f < 65536 := by
  have hlt := (totalLen f.buf).toNat_lt
  unfold packetLen
  omega

theorem HasPacket.dataHandle_eq {f : OtaFrame} (h : HasPacket f) (s : Ota) :
    dataHandle s f = updateTrans f s := by
  have hstart : ¬ f.buf frameType = updateStartCmd := by
    rw [h.1]
    decide
  rw [dataHandle,if_neg hstart,if_pos h.1]

theorem HasPacket.not_empty {f : OtaFrame} (h : HasPacket f) : totalLen f.buf ≠ 4 := by
  intro heq
  have hlen := h.2
  simp [heq] at hlen

theorem HasPacket.watchedStep_eq {f : OtaFrame} (h : HasPacket f) (w : Watched) :
    watchedStep w f = ⟨(updateTrans f w.ota).2,w.session ++ (updateTrans f w.ota).1,w.openedAt,
      w.opened⟩ := by
  have hstart : ¬ f.buf frameType = updateStartCmd := by
    rw [h.1]
    decide
  have hend : .wifiOtaEnd ∉ (updateTrans f w.ota).1 := by
    rw [updateTrans_ends_iff]
    exact fun hends => h.not_empty hends.2
  simp only [watchedStep,h.dataHandle_eq,hstart,if_false,hend]

theorem acknowledged_iff {f : OtaFrame} (h : HasPacket f) (s : Ota) :
    Acknowledged s f ↔ s.firmUpdateFlag = updateStartCmd ∧
      (totalLen f.buf).toNat ≤ s.firmSize.toNat+4 := by
  rw [Acknowledged,h.dataHandle_eq]
  by_cases hflag : s.firmUpdateFlag = updateStartCmd
  · by_cases hfits : (totalLen f.buf).toNat ≤ s.firmSize.toNat+4
    · simp [updateTrans_packet hflag h.not_empty hfits,hflag,hfits]
    · have hlong : s.firmSize.toNat+4 < (totalLen f.buf).toNat := by omega
      simp [updateTrans_tooLong hflag hlong,hfits]
  · simp [updateTrans_idle hflag,hflag]

theorem wifiOtaReceive_next (io : FalIo) (buf : Nat → UInt8) (len : UInt32) (s : Ota) :
    ((∃ part, s.dlPart = some part ∧ s.updateFileCurSize+len ≤ part.len ∧ io.writeOk = true) ∧
      wifiOtaReceive io buf s.updateFileCurSize len s =
        ([.write s.updateFileCurSize len true],
          { s with flash := overwrite s.updateFileCurSize.toNat len.toNat buf s.flash,
                   updateFileCurSize := s.updateFileCurSize+len })) ∨
    (¬ (∃ part, s.dlPart = some part ∧ s.updateFileCurSize+len ≤ part.len ∧ io.writeOk = true) ∧
      ∃ flash, wifiOtaReceive io buf s.updateFileCurSize len s =
        ([.write s.updateFileCurSize len false],{ s with flash := flash })) := by
  unfold wifiOtaReceive falPartitionWrite
  cases hpart : s.dlPart with
  | none => simp
  | some part =>
    by_cases hlen : part.len < s.updateFileCurSize+len
    · have hnot : ¬ s.updateFileCurSize+len ≤ part.len := UInt32.not_le.mpr hlen
      simp [hlen,hnot]
    · cases hok : io.writeOk with
      | false => simp [hlen]
      | true =>
        have hle : s.updateFileCurSize+len ≤ part.len := UInt32.not_lt.mp hlen
        simp [hlen,hle]

def receivePacket (f : OtaFrame) (s : Ota) : List OtaCall × Ota :=
  wifiOtaReceive f.io (packetByte f) (packetOffset f) (totalLen f.buf-4).toUInt32 s

theorem taken_step {w : Watched} {f : OtaFrame} (h : HasPacket f)
    (hflag : w.ota.firmUpdateFlag = updateStartCmd)
    (hfits : (totalLen f.buf).toNat ≤ w.ota.firmSize.toNat+4) {calls : List OtaCall} {s : Ota}
    (hr : receivePacket f w.ota = (calls,s)) :
    watchedStep w f = ⟨s,w.session ++ (calls ++ [.writeFrame updateTransCmd []]),w.openedAt,
      w.opened⟩ := by
  rw [h.watchedStep_eq,updateTrans_packet hflag h.not_empty hfits]
  change Watched.mk (receivePacket f w.ota).2
    (w.session ++ ((receivePacket f w.ota).1 ++ [.writeFrame updateTransCmd []])) _ _ = _
  rw [hr]

section Taken
variable {w : Watched} {f : OtaFrame} (hw : WatchInv w) (h : HasPacket f)
  (hflag : w.ota.firmUpdateFlag = updateStartCmd)
  (hfits : (totalLen f.buf).toNat ≤ w.ota.firmSize.toNat+4)
include hw h hflag hfits

theorem packetStored_skipped (hoff : w.ota.updateFileCurSize ≠ packetOffset f) :
    PacketStored (watchedStep w f) f ↔ w.openedAt ≤ packetOffset f ∧
      (packetOffset f).toNat+packetLen f ≤ w.ota.updateFileCurSize.toNat ∧
      ∀ i, i < packetLen f → w.ota.flash ((packetOffset f).toNat+i) = packetByte f i := by
  have hstep : watchedStep w f = ⟨w.ota,w.session ++ [.writeFrame updateTransCmd []],w.openedAt,
      w.opened⟩ := taken_step h hflag hfits (if_pos hoff)
  have hpos := h.len_pos
  rw [hstep]
  simp only [PacketStored,written_append,(inert_frame _ _).not_written,or_false,hw.written,
    UInt32.le_iff_toNat_le]
  constructor
  · intro hall
    have hfirst := (hall 0 hpos).2
    have hlast := (hall (packetLen f-1) (by omega)).2
    exact ⟨by omega,by omega,fun i hi => (hall i hi).1⟩
  · intro hall i hi
    exact ⟨hall.2.2 i hi,by omega,by omega⟩

/-- A packet at the end of the prefix is written if there is room for it and the write
succeeds; else the failed write shows in the calls. -/
theorem packet_next (hoff : packetOffset f = w.ota.updateFileCurSize) :
    (CanWrite w.ota f ∧ PacketStored (watchedStep w f) f ∧
      ∀ addr size, .write addr size false ∉ (receivePacket f w.ota).1) ∨
    (¬ CanWrite w.ota f ∧ ∃ addr size, .write addr size false ∈ (receivePacket f w.ota).1) := by
  have hbound : w.ota.updateFileCurSize.toNat ≤ 524288 := hw.bound
  have hlt := packetLen_lt f
  have hadd : (w.ota.updateFileCurSize+(totalLen f.buf-4).toUInt32).toNat =
      w.ota.updateFileCurSize.toNat+packetLen f := by
    rw [UInt32.toNat_add,h.len_eq]
    exact Nat.mod_eq_of_lt (by omega)
  have hcan : CanWrite w.ota f ↔ ∃ part, w.ota.dlPart = some part ∧
      w.ota.updateFileCurSize+(totalLen f.buf-4).toUInt32 ≤ part.len ∧ f.io.writeOk = true := by
    rw [CanWrite,← hadd,← UInt32.le_iff_toNat_le]
    cases hdl : w.ota.dlPart with
    | none => simp
    | some part => simp [hw.part part hdl]
  rw [hcan]
  rcases wifiOtaReceive_next f.io (packetByte f) (totalLen f.buf-4).toUInt32 w.ota with
    ⟨hok,hr⟩ | ⟨hno,flash,hr⟩
  · rw [← hoff] at hr
    refine .inl ⟨hok,?_,by rw [receivePacket,hr]; simp⟩
    rw [taken_step h hflag hfits hr]
    intro i hi
    simp only [overwrite,hoff,written_append,List.cons_append,List.nil_append,written_single,
      h.len_eq]
    refine ⟨?_,.inr ⟨by omega,by omega⟩⟩
    rw [if_pos ⟨by omega,by omega⟩,Nat.add_sub_cancel_left]
  · rw [← hoff] at hr
    exact .inr ⟨hno,_,_,by rw [receivePacket,hr]; exact List.mem_singleton_self _⟩

end Taken

theorem dataHandle_taken {s : Ota} {f : OtaFrame} (h : HasPacket f)
    (hflag : s.firmUpdateFlag = updateStartCmd)
    (hfits : (totalLen f.buf).toNat ≤ s.firmSize.toNat+4) {addr size : UInt32} :
    .write addr size false ∈ (dataHandle s f).1 ↔
      .write addr size false ∈ (receivePacket f s).1 := by
  rw [h.dataHandle_eq,updateTrans_packet hflag h.not_empty hfits]
  change OtaCall.write addr size false ∈ (receivePacket f s).1 ++ _ ↔ _
  simp

theorem ackTruthful_iff {w : Watched} (hw : WatchInv w) (f : OtaFrame) :
    AckTruthful w f ↔ AckBacked w f := by
  refine forall_congr' fun h => ?_
  rw [acknowledged_iff h]
  by_cases htaken : w.ota.firmUpdateFlag = updateStartCmd ∧
      (totalLen f.buf).toNat ≤ w.ota.firmSize.toNat+4
  · obtain ⟨hflag,hfits⟩ := htaken
    simp only [hflag,hfits,and_self,not_true,imp_false,true_imp_iff,dataHandle_taken h hflag hfits]
    have hpos := h.len_pos
    by_cases hoff : packetOffset f = w.ota.updateFileCurSize
    · have hpast : ¬ (packetOffset f).toNat+packetLen f ≤ w.ota.updateFileCurSize.toNat := by
        rw [hoff]
        omega
      rcases packet_next hw h hflag hfits hoff with ⟨hcan,hstored,hclean⟩ | ⟨hcan,addr,size,hfail⟩
      · simp [hstored,hclean,hoff,hcan]
      · constructor
        · intro ht
          exact absurd ⟨addr,size,hfail⟩ ht.2.2
        · intro ht
          rcases ht with ht | ht
          · exact absurd ht.2 hcan
          · exact absurd ht.2.1 hpast
    · have hr : receivePacket f w.ota = ([],w.ota) := if_pos (Ne.symm hoff)
      rw [packetStored_skipped hw h hflag hfits (Ne.symm hoff)]
      simp only [hoff,false_and,false_or,hr,List.not_mem_nil,exists_false,not_false_iff,and_true]
      refine and_iff_left_of_imp fun hstored hlt => ?_
      have hlt : w.ota.updateFileCurSize.toNat < (packetOffset f).toNat := hlt
      omega
  · simp only [htaken,false_imp_iff,not_false_iff,implies_true,and_self,true_iff]
    intro hflag hfits
    exact absurd ⟨hflag,hfits⟩ htaken

/-- In every state of every run from a reset the reply to a packet is true exactly when the
packet can be written at the end of the prefix or repeats what the session has written. -/
theorem ota_ack_truthful_iff (flash : Nat → UInt8) (fs : List OtaFrame) (f : OtaFrame) :
    AckTruthful (fs.foldl watchedStep (.boot flash)) f ↔
      AckBacked (fs.foldl watchedStep (.boot flash)) f :=
  ackTruthful_iff (foldl_inv WatchInv watchedStep_inv fs (watchInv_boot flash)) f

/-- An image of two bytes is announced and its second byte comes first. -/
theorem ota_ack_counterexample :
    ¬ ∀ (flash : Nat → UInt8) (fs : List OtaFrame) (f : OtaFrame),
      AckTruthful (fs.foldl watchedStep (.boot flash)) f := by
  intro hall
  have ht := hall (fun _ => 0) [otaFrame updateStartCmd [0,0,0,2]]
    (otaFrame updateTransCmd [0,0,0,1,7]) ⟨by decide,by decide⟩
  exact ht.2.1 (by decide) (by unfold Acknowledged; decide)

end GatewayF411
