import GatewayF411.Table
import GatewayF411.FrameFields

/-!
Where the handlers call `Flash_Set_Heart`. Around these calls a handler is `Still`: it
sends reports and leaves the registry, the stored hearts and the cloud mirror alone.
-/

set_option autoImplicit false

namespace GatewayF411
open CText SlotScan

/-- The columns that decide who is registered and online stay, and so does the mirror;
only reports are sent. -/
structure Still (g g' : Gateway) : Prop where
  num : g'.globalDevice.num = g.globalDevice.num
  mainNum : g'.globalDevice.mainNum = g.globalDevice.mainNum
  id : g'.globalDevice.id = g.globalDevice.id
  bindId : g'.globalDevice.bindId = g.globalDevice.bindId
  heart : g'.globalDevice.heart = g.globalDevice.heart
  remoteDevice : g'.remoteDevice = g.remoteDevice
  cloud : ∃ fs, g'.cloud = g.cloud ++ fs ∧ ∀ f ∈ fs, f.isReport = true

theorem Still.refl (g : Gateway) : Still g g := ⟨rfl,rfl,rfl,rfl,rfl,rfl,[],by simp,by simp⟩

theorem Still.trans {g g' g'' : Gateway} (h : Still g g') (h' : Still g' g'') : Still g g'' := by
  obtain ⟨fs,hfs,hr⟩ := h.cloud
  obtain ⟨fs',hfs',hr'⟩ := h'.cloud
  refine ⟨h'.num.trans h.num,h'.mainNum.trans h.mainNum,h'.id.trans h.id,
    h'.bindId.trans h.bindId,h'.heart.trans h.heart,h'.remoteDevice.trans h.remoteDevice,
    fs ++ fs',by rw [hfs',hfs,List.append_assoc],?_⟩
  intro f hf
  rcases List.mem_append.mp hf with hf | hf
  · exact hr f hf
  · exact hr' f hf

theorem Still.iteLeft {g g' : Gateway} (b : Prop) [Decidable b] (h : Still g g') :
    Still g (if b then g' else g) := by
  split
  · exact h
  · exact .refl g

theorem Reports.still {g g' : Gateway} (h : Reports g g') : Still g g' := by
  obtain ⟨fs,rfl,hfs⟩ := h
  exact ⟨rfl,rfl,rfl,rfl,rfl,rfl,fs,rfl,hfs⟩

theorem Still.of_silent {g g' : Gateway} (hnum : g'.globalDevice.num = g.globalDevice.num)
    (hmain : g'.globalDevice.mainNum = g.globalDevice.mainNum)
    (hid : g'.globalDevice.id = g.globalDevice.id)
    (hbind : g'.globalDevice.bindId = g.globalDevice.bindId)
    (hheart : g'.globalDevice.heart = g.globalDevice.heart)
    (hremote : g'.remoteDevice = g.remoteDevice) (hcloud : g'.cloud = g.cloud) : Still g g' :=
  ⟨hnum,hmain,hid,hbind,hheart,hremote,[],by rw [hcloud,List.append_nil],by simp⟩

theorem Still.sameRegistry {g g' : Gateway} (h : Still g g') : SameRegistry g g' :=
  ⟨h.num,h.mainNum,h.id,h.bindId⟩

theorem Still.slots {g g' : Gateway} (h : Still g g') (id : UInt32) :
    findSlot g'.globalDevice id = findSlot g.globalDevice id := by
  simp only [findSlot,h.num,h.id]

section
variable (g : Gateway)

theorem gatewayDataEnqueue_still (t i : UInt32) (r c v : UInt8) :
    Still g (gatewayDataEnqueue t i r c v g) := .of_silent rfl rfl rfl rfl rfl rfl rfl

theorem radioEnqueue_still (t : UInt32) (c m v : UInt8) : Still g (radioEnqueue t c m v g) :=
  .of_silent rfl rfl rfl rfl rfl rfl rfl

theorem ackFrame_still (m : Message) : Still g (ackFrame m g) :=
  .iteLeft _ (gatewayDataEnqueue_still g _ _ _ _ _)

theorem flashSetRssi_still (id : UInt32) (v : UInt8) : Still g (flashSetRssi id v g).2 := by
  unfold flashSetRssi
  split
  · exact .of_silent rfl rfl rfl rfl rfl rfl rfl
  · exact .refl g

theorem flashSetMoto_still (id : UInt32) (v : UInt8) : Still g (flashSetMoto id v g).2 := by
  unfold flashSetMoto
  split
  · exact .of_silent rfl rfl rfl rfl rfl rfl rfl
  · exact .refl g

theorem flashSetUploadFlag_still (id : UInt32) (v : UInt8) :
    Still g (flashSetUploadFlag id v g).2 := by
  unfold flashSetUploadFlag
  split
  · exact .of_silent rfl rfl rfl rfl rfl rfl rfl
  · exact .refl g

theorem syncRefresh_still : Still g (syncRefresh g) := by
  unfold syncRefresh
  split
  · exact .of_silent rfl rfl rfl rfl rfl rfl rfl
  · exact .refl g

theorem slaveHeart_still (id : UInt32) (v : UInt8) : Still g (slaveHeart id v g) :=
  (flashSetRssi_still g _ _).trans (reportEnum_reports _ _ _ _).still

theorem motoUpload_still (id : UInt32) (v : UInt8) : Still g (motoUpload id v g) :=
  (reportBool_reports g _ _ _).still.trans <|
    (flashSetMoto_still _ _ _).trans (reportBool_reports _ _ _ _).still

end

/-- One call of `Flash_Set_Heart`, with nothing of note before and after it. -/
def HeartCall (id : UInt32) (v : UInt8) (g g' : Gateway) : Prop :=
  ∃ g1, Still g g1 ∧ Still (flashSetHeart id v g1).2 g'

theorem HeartCall.still {id : UInt32} {v : UInt8} {g g' g'' : Gateway} (h : HeartCall id v g g')
    (hs : Still g' g'') : HeartCall id v g g'' := by
  obtain ⟨g1,h1,h2⟩ := h
  exact ⟨g1,h1,h2.trans hs⟩

theorem Still.heartCall {id : UInt32} {v : UInt8} {g g' g'' : Gateway} (hs : Still g g')
    (h : HeartCall id v g' g'') : HeartCall id v g g'' := by
  obtain ⟨g1,h1,h2⟩ := h
  exact ⟨g1,hs.trans h1,h2⟩

theorem HeartCall.sameRegistry {id : UInt32} {v : UInt8} {g g' : Gateway}
    (h : HeartCall id v g g') : SameRegistry g g' := by
  obtain ⟨g1,h1,h2⟩ := h
  exact (h1.sameRegistry.trans (flashSetHeart_quiet g1 id v).sameRegistry).trans h2.sameRegistry

section
variable (g : Gateway)

theorem flashSetHeart_heartCall (id : UInt32) (v : UInt8) :
    HeartCall id v g (flashSetHeart id v g).2 := ⟨g,.refl g,.refl _⟩

theorem heartUpload_heartCall (id : UInt32) (v : UInt8) : HeartCall id v g (heartUpload id v g) :=
  (heartBeatReport_reports g (fmtLd id) 0).still.heartCall (flashSetHeart_heartCall _ id v)

theorem deviceSeen_heartCall (m : Message) : HeartCall (u32 m.deviceId) 1 g (deviceSeen m g) :=
  (flashSetHeart_heartCall g _ _).still (slaveHeart_still _ _ _)

theorem warningCommand_heartCall (m : Message) :
    Still g (warningCommand m g) ∨
    (m.command = 4 ∧ HeartCall (u32 m.deviceId) 0 g (warningCommand m g)) ∨
    ((m.command = 5 ∨ m.command = 6) ∧ HeartCall (u32 m.deviceId) 1 g (warningCommand m g)) := by
  have hwarn : ∀ type, Still g (wariningUpload (u32 m.fromId) (u32 m.deviceId) type (u8 m.data) g) :=
    fun type => (wariningUpload_reports g _ _ type _).still
  unfold warningCommand
  split
  · exact .inl (hwarn 1)
  · exact .inl (hwarn 0)
  · exact .inl (hwarn 2)
  · rename_i hc
    exact .inr (.inl ⟨hc,flashSetHeart_heartCall g _ _⟩)
  · rename_i hc
    refine .inr (.inr ⟨.inl hc,(deviceSeen_heartCall g m).still ?_⟩)
    exact (wariningUpload_reports _ _ _ _ _).still.trans (motoUpload_still _ _ _)
  · rename_i hc
    refine .inr (.inr ⟨.inr hc,(deviceSeen_heartCall g m).still ?_⟩)
    exact (wariningUpload_reports _ _ _ _ _).still
  · exact .inl (initWarnMain_reports g _).still
  · exact .inl (hwarn 3)
  · exact .inl (hwarn 3)
  · exact .inl (.refl g)

theorem controlCommand_heartCall (m : Message) :
    Still g (controlCommand m g) ∨
    ((m.command = 2 ∨ (m.command = 3 ∧ m.deviceId ≠ 0) ∨ m.command = 6) ∧
      HeartCall (u32 m.deviceId) 1 g (controlCommand m g)) := by
  have hmoto : ∀ (g : Gateway) v, Still g (motoUpload (u32 m.fromId) v g) :=
    fun g v => motoUpload_still g _ v
  unfold controlCommand
  split
  · exact .inl ((hmoto g _).trans (.iteLeft _ (closeWarnMain_reports _ _).still))
  · rename_i hc
    refine .inr ⟨.inl hc,(deviceSeen_heartCall g m).still ?_⟩
    split
    · exact (hmoto _ _).trans (.iteLeft _ (closeWarnSlave_reports _ _).still)
    · exact hmoto _ 0
  · rename_i hc
    split
    · rename_i hd
      refine .inr ⟨.inr (.inl ⟨hc,hd⟩),?_⟩
      exact (doorDelayWiFi_reports g _ _ _).still.heartCall (deviceSeen_heartCall _ m)
    · exact .inl (.refl g)
  · exact .inl (hmoto g _)
  · exact .inl ((syncRefresh_still g).trans <| (hmoto _ _).trans <|
      (gatewayDataEnqueue_still _ _ _ _ _ _).trans (initWarnMain_reports _ _).still)
  · rename_i hc
    refine .inr ⟨.inr (.inr hc),?_⟩
    refine (reportBool_reports g 104 (u8 m.data) (u32 m.deviceId)).still.heartCall ?_
    refine (deviceSeen_heartCall _ m).still ((hmoto _ (u8 m.data)).trans ?_)
    exact .iteLeft _ (closeWarnSlave_reports _ _).still
  · exact .inl (.refl g)

theorem syncOffline_heartCall (m : Message) : HeartCall (u32 m.deviceId) 0
    (deviceAdd2FlashWifi (u32 m.deviceId) (u32 m.fromId) g) (syncOffline m g) := by
  unfold syncOffline
  exact (flashSetHeart_heartCall _ _ _).still
    ((slaveHeart_still _ _ _).trans (wariningUpload_reports _ _ _ _ _).still)

theorem syncOnline_heartCall (m : Message) : Still
    (deviceUp (u32 m.deviceId) (flashSetHeart (u32 m.deviceId) 1
      (deviceAdd2FlashWifi (u32 m.deviceId) (u32 m.fromId) g)).2) (syncOnline m g) := by
  unfold syncOnline
  exact (slaveHeart_still _ _ _).trans (wariningUpload_reports _ _ _ _ _).still

end

section
variable (g : Gateway)

theorem dpDownloadControlStateHandle_still (value subId : List UInt8) :
    Still g (dpDownloadControlStateHandle value subId g).2 := by
  have hq : Still g (if value.getD 0 0 = 0 then motoCloseRemote (u32 (atol (cString subId 0))) g
      else motoOpenRemote (u32 (atol (cString subId 0))) g) := by
    split <;> exact gatewayDataEnqueue_still g _ _ _ _ _
  unfold dpDownloadControlStateHandle
  dsimp only
  generalize (if value.getD 0 0 = 0 then motoCloseRemote (u32 (atol (cString subId 0))) g
    else motoOpenRemote (u32 (atol (cString subId 0))) g) = g1 at hq ⊢
  split <;> exact hq.trans (mcuDpUpdate_reports g1 rfl).still

theorem getNextMain_still : Still g (getNextMain g).2 := by
  unfold getNextMain
  dsimp only
  split
  · exact .of_silent rfl rfl rfl rfl rfl rfl rfl
  · exact .refl g

theorem syncTimeout_still : Still g (syncTimeout g) := by
  unfold syncTimeout syncTimeoutCallback
  split
  · have h := getNextMain_still { g with sync := { g.sync with timeoutT := false } }
    have hstart : Still g { g with sync := { g.sync with timeoutT := false } } :=
      .of_silent rfl rfl rfl rfl rfl rfl rfl
    split
    · rename_i g2 hg2
      rw [hg2] at h
      exact (hstart.trans h).trans (.of_silent rfl rfl rfl rfl rfl rfl rfl)
    · rename_i g2 hg2
      rw [hg2] at h
      exact (hstart.trans h).trans (.of_silent rfl rfl rfl rfl rfl rfl rfl)
  · exact .refl g

theorem syncRequest_still : Still g (syncRequest g) := by
  have hstart : Still g { g with
      sync := { g.sync with timeoutT := false, counter := g.globalDevice.num } } :=
    .of_silent rfl rfl rfl rfl rfl rfl rfl
  exact (hstart.trans (getNextMain_still _)).trans (.of_silent rfl rfl rfl rfl rfl rfl rfl)

theorem syncSettle_still :
    Still (if g.globalDevice.id g.sync.counter = 0 then g
      else deviceAdd2FlashWifi (g.globalDevice.id g.sync.counter) 0 g) (syncSettle g) := by
  unfold syncSettle
  dsimp only
  split
  · exact .of_silent rfl rfl rfl rfl rfl rfl rfl
  · generalize deviceAdd2FlashWifi (g.globalDevice.id g.sync.counter) 0 g = g1
    split
    · exact .of_silent rfl rfl rfl rfl rfl rfl rfl
    · have hstart : Still g1
          { g1 with sync := { g1.sync with timeoutT := false, pc := .take } } :=
        .of_silent rfl rfl rfl rfl rfl rfl rfl
      have h := hstart.trans (getNextMain_still _)
      split
      · rename_i g2 hg2
        rw [hg2] at h
        exact h.trans (.of_silent rfl rfl rfl rfl rfl rfl rfl)
      · rename_i g2 hg2
        rw [hg2] at h
        exact h.trans (.of_silent rfl rfl rfl rfl rfl rfl rfl)

theorem syncThread_still :
    Still g (syncThread g) ∨
    (g.globalDevice.id g.sync.counter ≠ 0 ∧
      Still (deviceAdd2FlashWifi (g.globalDevice.id g.sync.counter) 0 g) (syncThread g)) := by
  unfold syncThread
  split
  · refine .inl ?_
    split
    · exact .of_silent rfl rfl rfl rfl rfl rfl rfl
    · exact .refl g
  · have h := syncSettle_still g
    split at h
    · exact .inl h
    · rename_i hne
      exact .inr ⟨hne,h⟩
  · refine .inl ?_
    unfold syncWait
    dsimp only
    split <;> exact .of_silent rfl rfl rfl rfl rfl rfl rfl

/-- A learn frame with data 2 deletes its main and registers it again. -/
def LearnsAgain (d : DeviceInfo) (m : Message) : Prop :=
  m.command = 3 ∧ m.data = 2 ∧ (10000000 ≤ m.fromId ∧ m.fromId < 20000000) ∧
    (flashGetKeyValid d (u32 m.fromId) = .eok ∨ getMainNums d = .eok)

theorem deviceLearn_cases (m : Message) (hc : m.command = 3) :
    (¬ LearnsAgain g.globalDevice m ∧ Still g (deviceLearn m g)) ∨
    (LearnsAgain g.globalDevice m ∧
      deviceLearn m g = deviceAdd2FlashWifi (u32 m.fromId) 0 (delDevice (u32 m.fromId) g).2) := by
  unfold deviceLearn
  split
  · rename_i hfull
    refine .inl ⟨fun hl => ?_,.refl g⟩
    rcases hl.2.2.2 with hv | hn
    · exact hfull.1 hv
    · exact hfull.2 hn
  · rename_i hroom
    split
    · rename_i hrange
      split
      · rename_i hd
        refine .inl ⟨fun hl => ?_,radioEnqueue_still g _ _ _ _⟩
        rw [hl.2.1] at hd
        contradiction
      · rename_i hd
        refine .inr ⟨⟨hc,hd,hrange,?_⟩,rfl⟩
        by_contra hno
        exact hroom ⟨fun hv => hno (.inl hv),fun hn => hno (.inr hn)⟩
      · rename_i hd
        exact .inl ⟨fun hl => hd hl.2.1,.refl g⟩
    · rename_i hrange
      exact .inl ⟨fun hl => hrange hl.2.2.1,.refl g⟩

end

def NormalAccepted (g : Gateway) (junk : Message) (buffer : List UInt8) (len : Nat) : Prop :=
  charAt buffer 1 = '{' ∧ (charAt buffer len = '\n' ∧ 1 ≤ len ∧ charAt buffer (len-1) = '\r') ∧
  u32 (parseNormal (normalFields buffer) junk).targetId = g.selfId ∧
  (parseNormal (normalFields buffer) junk).fromId ≠ 98989898

def WarningAccepted (g : Gateway) (junk : Message) (buffer : List UInt8) (len : Nat) : Prop :=
  charAt buffer 1 = 'B' ∧ charAt buffer len = 'B' ∧
  u32 (parseReport (gatewayFields buffer) junk).targetId = g.selfId ∧
  checkValid g.globalDevice (u32 (parseReport (gatewayFields buffer) junk).fromId) = .eok

section
variable (g : Gateway) (junk : Message) (rssi : Int) (buffer : List UInt8) (len : Nat)

/-- What a radio buffer can do: it is refused, or its sender is set online and then the
command of the frame runs. A normal frame runs its command first. -/
theorem rf433RxCallback_cases :
    (¬ Accepts g junk buffer len ∧ rf433RxCallback junk rssi buffer len g = g) ∨
    (NormalAccepted g junk buffer len ∧
      HeartCall (u32 (parseNormal (normalFields buffer) junk).fromId) 1
        (if (parseNormal (normalFields buffer) junk).command = 3 then
          deviceLearn (parseNormal (normalFields buffer) junk) g else g)
        (rf433RxCallback junk rssi buffer len g)) ∨
    (SyncAccepted g junk buffer len ∧
      ∃ g1, HeartCall (u32 (parseSync (gatewayFields buffer) junk).fromId) 1 g g1 ∧
        rf433RxCallback junk rssi buffer len g =
          syncCommand (parseSync (gatewayFields buffer) junk) g1) ∨
    (WarningAccepted g junk buffer len ∧
      ∃ g1, HeartCall (u32 (parseReport (gatewayFields buffer) junk).fromId) 1 g g1 ∧
        rf433RxCallback junk rssi buffer len g =
          warningCommand (parseReport (gatewayFields buffer) junk) g1) ∨
    (ControlAccepted g junk buffer len ∧
      ∃ g1, HeartCall (u32 (parseReport (gatewayFields buffer) junk).fromId) 1 g g1 ∧
        rf433RxCallback junk rssi buffer len g =
          controlCommand (parseReport (gatewayFields buffer) junk) g1) := by
  by_cases hacc : Accepts g junk buffer len
  · refine .inr ?_
    rcases hacc with hn | hs | hw | hc
    · refine .inl ⟨hn,?_⟩
      simp only [rf433RxCallback,normalSolve,hn.1,hn.2.1,hn.2.2.1,hn.2.2.2,and_self,if_true,if_false]
      exact heartUpload_heartCall _ _ _
    · have hack := ackFrame_still g (parseSync (gatewayFields buffer) junk)
      have hrssi := (mainRssiReport_reports (ackFrame (parseSync (gatewayFields buffer) junk) g)
        (u32 (parseSync (gatewayFields buffer) junk).fromId) rssi).still
      refine .inr (.inl ⟨hs,_,(hack.trans hrssi).heartCall (heartUpload_heartCall _ _ 1),?_⟩)
      simp only [rf433RxCallback,gatewaySyncSolve,hs.1,hs.2.1,hs.2.2.1,hs.2.2.2,and_self,if_true]
    · have hack := ackFrame_still g (parseReport (gatewayFields buffer) junk)
      have hheart := hack.heartCall
        (heartUpload_heartCall _ (u32 (parseReport (gatewayFields buffer) junk).fromId) 1)
      refine .inr (.inr (.inl ⟨hw,_,hheart.still (mainRssiReport_reports _
        (u32 (parseReport (gatewayFields buffer) junk).fromId) rssi).still,?_⟩))
      simp only [rf433RxCallback,gatewayWarningSolve,hw.1,hw.2.1,hw.2.2.1,hw.2.2.2,and_self,if_true]
    · have hack := ackFrame_still g (parseReport (gatewayFields buffer) junk)
      have hrssi := (mainRssiReport_reports (ackFrame (parseReport (gatewayFields buffer) junk) g)
        (u32 (parseReport (gatewayFields buffer) junk).fromId) rssi).still
      refine .inr (.inr (.inr ⟨hc,_,(hack.trans hrssi).heartCall (heartUpload_heartCall _ _ 1),?_⟩))
      simp only [rf433RxCallback,gatewayControlSolve,hc.1,hc.2.1,hc.2.2.1,hc.2.2.2,and_self,if_true]
  · exact .inl ⟨hacc,rf433RxCallback_refused hacc rssi⟩

end

end GatewayF411
