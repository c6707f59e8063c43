import GatewayF411.Lib.Runs
import GatewayF411.Ota

/-!
When the gateway commits to a new image. A run is watched together with the calls the
module has made since the latest `UPDATE_START` frame; the module itself keeps only
`update_file_cur_size`, and does not look at it when an empty packet arrives.
-/

set_option autoImplicit false

namespace GatewayF411
open Runs

def BeginSucceeded (firmLength : UInt32) (calls : List OtaCall) : Prop :=
  .find true ∈ calls ∧ firmLength ≤ downloadPart.len ∧ .erase firmLength true ∈ calls

def Written (calls : List OtaCall) (a : Nat) : Prop :=
  ∃ addr size, .write addr size true ∈ calls ∧ addr.toNat ≤ a ∧ a < addr.toNat+size.toNat

/-- What has to be so when `wifi_ota_end` is called. -/
def CommitSafe (firmLength : UInt32) (calls : List OtaCall) : Prop :=
  BeginSucceeded firmLength calls ∧ ∀ a, a < firmLength.toNat → Written calls a

/-- The module with the calls of the current session. `openedAt` is the value of
`update_file_cur_size` that the latest `UPDATE_START` frame found, `opened` tells
whether its partition was found, its size fits and its erase succeeded. -/
structure Watched where
  ota : Ota
  session : List OtaCall
  openedAt : UInt32
  opened : Bool

def watchedStep (w : Watched) (f : OtaFrame) : Watched :=
  let r := dataHandle w.ota f
  if f.buf frameType = updateStartCmd then
    ⟨r.2,r.1,w.ota.updateFileCurSize,
      f.io.found && decide (word32 f.buf dataStart ≤ downloadPart.len) && f.io.eraseOk⟩
  else if .wifiOtaEnd ∈ r.1 then ⟨r.2,[],0,false⟩
  else ⟨r.2,w.session ++ r.1,w.openedAt,w.opened⟩

def Watched.boot (flash : Nat → UInt8) : Watched := ⟨.boot flash,[],0,false⟩

/-- The frame makes the module call `wifi_ota_end` only when that is safe. -/
def EndsSafely (w : Watched) (f : OtaFrame) : Prop :=
  .wifiOtaEnd ∈ (dataHandle w.ota f).1 → CommitSafe w.ota.firmLength w.session

/-- The condition on an empty packet that arrives while an update is on. -/
def SessionComplete (w : Watched) (f : OtaFrame) : Prop :=
  f.buf frameType = updateTransCmd → w.ota.firmUpdateFlag = updateStartCmd →
  totalLen f.buf = 4 →
  w.opened = true ∧
  (w.ota.firmLength = 0 ∨ (w.openedAt = 0 ∧ w.ota.firmLength ≤ w.ota.updateFileCurSize))

def Inert (calls : List OtaCall) : Prop :=
  ∀ c ∈ calls, (∃ cmd data, c = .writeFrame cmd data) ∨ ∃ addr size, c = .write addr size false

theorem inert_nil : Inert [] := by simp [Inert]

theorem inert_frame (cmd : UInt8) (data : List UInt8) : Inert [.writeFrame cmd data] := by
  simp [Inert]

theorem Inert.not_end {calls : List OtaCall} (h : Inert calls) : .wifiOtaEnd ∉ calls := by
  intro hmem
  rcases h _ hmem with ⟨_,_,hc⟩ | ⟨_,_,hc⟩ <;> cases hc

theorem written_append (calls calls' : List OtaCall) (a : Nat) :
    Written (calls ++ calls') a ↔ Written calls a ∨ Written calls' a := by
  unfold Written
  simp only [List.mem_append,or_and_right,exists_or]

theorem Inert.not_written {calls : List OtaCall} (h : Inert calls) (a : Nat) :
    ¬ Written calls a := by
  rintro ⟨addr,size,hmem,_⟩
  rcases h _ hmem with ⟨_,_,hc⟩ | ⟨_,_,hc⟩ <;> cases hc

theorem written_single (addr size : UInt32) (cmd : UInt8) (data : List UInt8) (a : Nat) :
    Written [.write addr size true,.writeFrame cmd data] a ↔
      addr.toNat ≤ a ∧ a < addr.toNat+size.toNat := by
  simp [Written,and_assoc]

theorem beginSucceeded_append {calls calls' : List OtaCall} (hfind : .find true ∉ calls')
    (herase : ∀ n, .erase n true ∉ calls') (firmLength : UInt32) :
    BeginSucceeded firmLength (calls ++ calls') ↔ BeginSucceeded firmLength calls := by
  simp [BeginSucceeded,hfind,herase]

structure WatchInv (w : Watched) : Prop where
  part : ∀ part, w.ota.dlPart = some part → part = downloadPart
  bound : w.ota.updateFileCurSize ≤ downloadPart.len
  openedAt : w.openedAt ≤ w.ota.updateFileCurSize
  written : ∀ a, Written w.session a ↔
    w.openedAt.toNat ≤ a ∧ a < w.ota.updateFileCurSize.toNat
  begun : w.ota.firmUpdateFlag = updateStartCmd →
    (BeginSucceeded w.ota.firmLength w.session ↔ w.opened = true)

theorem watchInv_boot (flash : Nat → UInt8) : WatchInv (.boot flash) where
  part := by simp [Watched.boot,Ota.boot]
  bound := UInt32.zero_le
  openedAt := UInt32.zero_le
  written := by simp [Watched.boot,Ota.boot,Written]
  begun := by simp [Watched.boot,Ota.boot,updateStartCmd]

theorem WatchInv.inert {w : Watched} (h : WatchInv w) {ota : Ota} {calls : List OtaCall}
    (hpart : ota.dlPart = w.ota.dlPart) (hcur : ota.updateFileCurSize = w.ota.updateFileCurSize)
    (hflag : ota.firmUpdateFlag = updateStartCmd →
      w.ota.firmUpdateFlag = updateStartCmd ∧ ota.firmLength = w.ota.firmLength)
    (hcalls : Inert calls) : WatchInv ⟨ota,w.session ++ calls,w.openedAt,w.opened⟩ where
  part := by
    rw [hpart]
    exact h.part
  bound := by
    rw [hcur]
    exact h.bound
  openedAt := by
    rw [hcur]
    exact h.openedAt
  written := by
    intro a
    simp only [hcur,written_append,hcalls.not_written,or_false]
    exact h.written a
  begun := by
    intro hf
    obtain ⟨hstart,hlen⟩ := hflag hf
    have hfind : .find true ∉ calls := by
      intro hmem
      rcases hcalls _ hmem with ⟨_,_,hc⟩ | ⟨_,_,hc⟩ <;> cases hc
    have herase : ∀ n, .erase n true ∉ calls := by
      intro n hmem
      rcases hcalls _ hmem with ⟨_,_,hc⟩ | ⟨_,_,hc⟩ <;> cases hc
    rw [beginSucceeded_append hfind herase,hlen]
    exact h.begun hstart

theorem WatchInv.stored {w : Watched} (h : WatchInv w) {part : FalPartition} {len : UInt32}
    (hpart : w.ota.dlPart = some part) (hfits : w.ota.updateFileCurSize+len ≤ part.len)
    (hlen : len.toNat < 65536) (flash : Nat → UInt8) (cmd : UInt8) (data : List UInt8) :
    WatchInv ⟨{ w.ota with flash := flash,
                           updateFileCurSize := w.ota.updateFileCurSize+len },
      w.session ++ [.write w.ota.updateFileCurSize len true,.writeFrame cmd data],
      w.openedAt,w.opened⟩ := by
  have hdl : part = downloadPart := h.part part hpart
  subst hdl
  have hbound : w.ota.updateFileCurSize.toNat ≤ 524288 := h.bound
  have hopened : w.openedAt.toNat ≤ w.ota.updateFileCurSize.toNat := h.openedAt
  have hadd : (w.ota.updateFileCurSize+len).toNat = w.ota.updateFileCurSize.toNat+len.toNat := by
    rw [UInt32.toNat_add]
    exact Nat.mod_eq_of_lt (by omega)
  refine ⟨h.part,hfits,?_,fun a => ?_,fun hf => ?_⟩
  · rw [UInt32.le_iff_toNat_le]
    dsimp only
    omega
  · dsimp only
    rw [written_append,h.written,written_single,hadd]
    omega
  · rw [beginSucceeded_append (by simp) (by simp)]
    exact h.begun hf

theorem wifiOtaBegin_spec (io : FalIo) (n : UInt32) (s : Ota) :
    (wifiOtaBegin io n s).2.updateFileCurSize = s.updateFileCurSize ∧
    (wifiOtaBegin io n s).2.firmLength = s.firmLength ∧
    (∀ part, (wifiOtaBegin io n s).2.dlPart = some part → part = downloadPart) ∧
    (∀ a, ¬ Written (wifiOtaBegin io n s).1 a) ∧
    (BeginSucceeded n (wifiOtaBegin io n s).1 ↔
      (io.found && decide (n ≤ downloadPart.len) && io.eraseOk) = true) := by
  cases hfound : io.found with
  | false => simp [wifiOtaBegin,falPartitionFind,hfound,Written,BeginSucceeded]
  | true =>
    by_cases hlen : downloadPart.len < n
    · have hle : ¬ n ≤ downloadPart.len := UInt32.not_le.mpr hlen
      simp [wifiOtaBegin,falPartitionFind,hfound,hlen,hle,Written,BeginSucceeded]
    · have hle : n ≤ downloadPart.len := UInt32.not_lt.mp hlen
      cases hok : io.eraseOk <;>
        simp [wifiOtaBegin,falPartitionFind,falPartitionErase,hfound,hlen,hle,hok,Written,
          BeginSucceeded]

theorem updateStart_watchInv {w : Watched} (h : WatchInv w) (f : OtaFrame) :
    WatchInv ⟨(updateStart f w.ota).2,(updateStart f w.ota).1,w.ota.updateFileCurSize,
      f.io.found && decide (word32 f.buf dataStart ≤ downloadPart.len) && f.io.eraseOk⟩ := by
  obtain ⟨hcur,hlen,hpart,hwritten,hbegun⟩ := wifiOtaBegin_spec f.io (word32 f.buf dataStart)
    { w.ota with firmSize := firmSizeOf packageSize w.ota.firmSize,
                 firmLength := word32 f.buf dataStart, firmUpdateFlag := updateStartCmd }
  unfold updateStart
  dsimp only at hcur hlen ⊢
  generalize wifiOtaBegin f.io (word32 f.buf dataStart)
    { w.ota with firmSize := firmSizeOf packageSize w.ota.firmSize,
                 firmLength := word32 f.buf dataStart, firmUpdateFlag := updateStartCmd } = r
    at hcur hlen hpart hwritten hbegun
  refine ⟨hpart,?_,?_,fun a => ?_,fun _ => ?_⟩
  · rw [hcur]
    exact h.bound
  · rw [hcur]
    exact UInt32.le_refl _
  · have hnone : ¬ Written (.writeFrame updateStartCmd [packageSize] :: r.1) a := by
      have happ := written_append [.writeFrame updateStartCmd [packageSize]] r.1 a
      simp only [(inert_frame _ _).not_written,hwritten,or_false,iff_false] at happ
      exact happ
    rw [hcur]
    simp only [hnone,false_iff]
    omega
  · rw [hlen,← hbegun]
    simp [BeginSucceeded]

theorem updateTrans_watchInv {w : Watched} (h : WatchInv w) (f : OtaFrame)
    (hend : .wifiOtaEnd ∉ (updateTrans f w.ota).1) :
    WatchInv ⟨(updateTrans f w.ota).2,w.session ++ (updateTrans f w.ota).1,w.openedAt,
      w.opened⟩ := by
  by_cases hflag : w.ota.firmUpdateFlag = updateStartCmd
  · by_cases hempty : totalLen f.buf = 4
    · rw [updateTrans_empty hflag hempty] at hend
      simp at hend
    · by_cases hfits : (totalLen f.buf).toNat ≤ w.ota.firmSize.toNat+4
      · rw [updateTrans_packet hflag hempty hfits]
        have hlen : (totalLen f.buf-4).toUInt32.toNat < 65536 := by
          rw [UInt16.toNat_toUInt32]
          exact (totalLen f.buf-4).toNat_lt
        generalize (totalLen f.buf-4).toUInt32 = len at hlen
        rcases wifiOtaReceive_cases f.io (fun i => f.buf (dataStart+4+i)) (word32 f.buf dataStart)
          len w.ota with hr | ⟨part,hpart,hle,hr⟩ | ⟨flash,hr⟩
        · rw [hr]
          exact h.inert rfl rfl (fun hf => ⟨hf,rfl⟩) (inert_frame _ _)
        · rw [hr]
          exact h.stored hpart hle hlen _ _ _
        · rw [hr]
          exact h.inert rfl rfl (fun hf => ⟨hf,rfl⟩) (by simp [Inert])
      · rw [updateTrans_tooLong hflag (by omega)]
        exact h.inert rfl rfl (fun hf => absurd hf (by simp [updateStartCmd])) inert_nil
  · rw [updateTrans_idle hflag]
    exact h.inert rfl rfl (fun hf => ⟨hf,rfl⟩) inert_nil

theorem subdevTrans_spec (f : OtaFrame) (s : Ota) : Inert (subdevTrans f s).1 ∧
    ((subdevTrans f s).2 = s ∨ (subdevTrans f s).2 = { s with firmUpdateFlag := 0 }) := by
  have hframe := inert_frame subdevTransCmd []
  simp only [subdevTrans,transPacket,transDone,subdevFirmUpdateHandle,Option.isSome_some,if_true,
    List.nil_append]
  split
  · split
    · exact ⟨hframe,.inr rfl⟩
    · split
      · exact ⟨hframe,.inl rfl⟩
      · exact ⟨inert_nil,.inr rfl⟩
  · exact ⟨inert_nil,.inl rfl⟩

theorem updateTrans_ends_iff (f : OtaFrame) (s : Ota) :
    .wifiOtaEnd ∈ (updateTrans f s).1 ↔
      s.firmUpdateFlag = updateStartCmd ∧ totalLen f.buf = 4 := by
  by_cases hflag : s.firmUpdateFlag = updateStartCmd
  · by_cases hempty : totalLen f.buf = 4
    · simp [updateTrans_empty hflag hempty,hflag,hempty]
    · by_cases hfits : (totalLen f.buf).toNat ≤ s.firmSize.toNat+4
      · rw [updateTrans_packet hflag hempty hfits]
        generalize (totalLen f.buf-4).toUInt32 = len
        rcases wifiOtaReceive_cases f.io (fun i => f.buf (dataStart+4+i)) (word32 f.buf dataStart)
          len s with hr | ⟨part,_,_,hr⟩ | ⟨flash,hr⟩ <;> simp [hr,hempty]
      · have hlong : s.firmSize.toNat+4 < (totalLen f.buf).toNat := by omega
        simp [updateTrans_tooLong hflag hlong,hempty]
  · simp [updateTrans_idle hflag,hflag]

theorem updateStart_not_ends (f : OtaFrame) (s : Ota) : .wifiOtaEnd ∉ (updateStart f s).1 := by
  unfold updateStart wifiOtaBegin
  dsimp only
  split
  · simp
  · split <;> simp

/-- `wifi_ota_end` is called for the empty packets of a running update, and only then. -/
theorem dataHandle_ends_iff (s : Ota) (f : OtaFrame) :
    .wifiOtaEnd ∈ (dataHandle s f).1 ↔ f.buf frameType = updateTransCmd ∧
      s.firmUpdateFlag = updateStartCmd ∧ totalLen f.buf = 4 := by
  unfold dataHandle
  by_cases hstart : f.buf frameType = updateStartCmd
  · simp only [hstart,if_true,updateStart_not_ends,false_iff]
    exact fun h => absurd h.1 (by decide)
  · by_cases htrans : f.buf frameType = updateTransCmd
    · simp only [htrans,if_true,true_and]
      rw [if_neg (by decide)]
      exact updateTrans_ends_iff f s
    · simp only [hstart,htrans,if_false,false_and,iff_false]
      split
      · exact (inert_frame _ _).not_end
      · split
        · exact (subdevTrans_spec f s).1.not_end
        · exact inert_nil.not_end

theorem watchedStep_inv (w : Watched) (f : OtaFrame) (h : WatchInv w) :
    WatchInv (watchedStep w f) := by
  have hends := dataHandle_ends_iff w.ota f
  unfold watchedStep
  by_cases hstart : f.buf frameType = updateStartCmd
  · simp only [dataHandle,hstart,if_true]
    exact updateStart_watchInv h f
  · rw [if_neg hstart]
    split
    · rename_i hend
      obtain ⟨htrans,hflag,hempty⟩ := hends.mp hend
      have hboot : (dataHandle w.ota f).2 = .boot w.ota.flash := by
        rw [dataHandle,if_neg hstart,if_pos htrans,updateTrans_empty hflag hempty]
      rw [hboot]
      exact watchInv_boot _
    · rename_i hend
      unfold dataHandle at hend ⊢
      rw [if_neg hstart] at hend ⊢
      split
      · rename_i htrans
        rw [if_pos htrans] at hend
        exact updateTrans_watchInv h f hend
      · split
        · exact h.inert rfl rfl (fun hf => absurd hf
            (by simp [subdevStartUpgrade,subdevStartUpgradeCmd,updateStartCmd])) (inert_frame _ _)
        · split
          · obtain ⟨hin,hota | hota⟩ := subdevTrans_spec f w.ota
            · rw [hota]
              exact h.inert rfl rfl (fun hf => ⟨hf,rfl⟩) hin
            · rw [hota]
              exact h.inert rfl rfl (fun hf => absurd hf (by simp [updateStartCmd])) hin
          · exact h.inert rfl rfl (fun hf => ⟨hf,rfl⟩) inert_nil

/-- The written bytes are those from `openedAt` up to the counter, so they cover the
image exactly when the session started at 0 and the counter has reached its length. -/
theorem WatchInv.commitSafe_iff {w : Watched} (h : WatchInv w)
    (hflag : w.ota.firmUpdateFlag = updateStartCmd) :
    CommitSafe w.ota.firmLength w.session ↔ w.opened = true ∧
      (w.ota.firmLength = 0 ∨
        (w.openedAt = 0 ∧ w.ota.firmLength ≤ w.ota.updateFileCurSize)) := by
  unfold CommitSafe
  rw [h.begun hflag]
  refine and_congr_right fun _ => ?_
  simp only [h.written,← UInt32.toNat_inj,UInt32.le_iff_toNat_le,UInt32.toNat_zero]
  refine ⟨fun hall => ?_,fun hcond a ha => ?_⟩
  · by_cases hzero : w.ota.firmLength.toNat = 0
    · exact .inl hzero
    · have hfirst := hall 0 (by omega)
      have hlast := hall (w.ota.firmLength.toNat-1) (by omega)
      omega
  · omega

/-- In a run from a reset `wifi_ota_end` is only called safely if and only if every empty
packet finds a session that began well, started at 0 and has reached the image length. -/
theorem ota_commit_safe_iff (flash : Nat → UInt8) (fs : List OtaFrame) :
    Along watchedStep EndsSafely (.boot flash) fs ↔
      Along watchedStep SessionComplete (.boot flash) fs := by
  refine along_congr WatchInv watchedStep_inv (fun w f hw => ?_) (watchInv_boot flash)
  unfold EndsSafely SessionComplete
  rw [dataHandle_ends_iff]
  constructor
  · intro h htrans hflag hempty
    exact (hw.commitSafe_iff hflag).mp (h ⟨htrans,hflag,hempty⟩)
  · intro h ⟨htrans,hflag,hempty⟩
    exact (hw.commitSafe_iff hflag).mpr (h htrans hflag hempty)

/-- An image of one byte is announced and at once declared complete. -/
def emptyUpdate : List OtaFrame :=
  [otaFrame updateStartCmd [0,0,0,1],otaFrame updateTransCmd [0,0,0,1]]

theorem ota_commit_counterexample :
    ¬ ∀ (flash : Nat → UInt8) (fs : List OtaFrame),
      Along watchedStep EndsSafely (.boot flash) fs := by
  intro h
  obtain ⟨_,hends,_⟩ := h (fun _ => 0) emptyUpdate
  obtain ⟨_,hall⟩ := hends (by decide)
  obtain ⟨addr,size,hmem,_⟩ := hall 0 (by decide)
  have hsession : (watchedStep (.boot fun _ => 0) (otaFrame updateStartCmd [0,0,0,1])).session =
      [.writeFrame updateStartCmd [packageSize],.find true,.erase 1 true] := by decide
  rw [hsession] at hmem
  simp at hmem

end GatewayF411
