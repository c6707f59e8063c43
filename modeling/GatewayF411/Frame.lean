import GatewayF411.System

/-!
What the functions of the gateway leave alone. `Quiet` functions touch neither
the registry columns of the table nor the cloud mirror nor the synchronisation
state; table functions still only append to the frames sent.
-/

set_option autoImplicit false

namespace GatewayF411
open CText SlotScan

/-- No frame is taken back, and the synchronisation state is untouched. -/
structure Grows (g g' : Gateway) : Prop where
  selfId : g'.selfId = g.selfId
  sync : g'.sync = g.sync
  syncRetry : g'.globalDevice.syncRetry = g.globalDevice.syncRetry
  cloud : g.cloud <+: g'.cloud

structure Quiet (g g' : Gateway) : Prop extends Grows g g' where
  num : g'.globalDevice.num = g.globalDevice.num
  mainNum : g'.globalDevice.mainNum = g.globalDevice.mainNum
  id : g'.globalDevice.id = g.globalDevice.id
  bindId : g'.globalDevice.bindId = g.globalDevice.bindId
  remoteDevice : g'.remoteDevice = g.remoteDevice

theorem Grows.refl (g : Gateway) : Grows g g := ⟨rfl,rfl,rfl,List.prefix_refl _⟩

theorem Grows.trans {g g' g'' : Gateway} (h : Grows g g') (h' : Grows g' g'') : Grows g g'' :=
  ⟨h'.selfId.trans h.selfId,h'.sync.trans h.sync,h'.syncRetry.trans h.syncRetry,
    h.cloud.trans h'.cloud⟩

theorem Quiet.refl (g : Gateway) : Quiet g g := ⟨.refl g,rfl,rfl,rfl,rfl,rfl⟩

theorem Quiet.trans {g g' g'' : Gateway} (h : Quiet g g') (h' : Quiet g' g'') : Quiet g g'' :=
  ⟨h.toGrows.trans h'.toGrows,h'.num.trans h.num,h'.mainNum.trans h.mainNum,h'.id.trans h.id,
    h'.bindId.trans h.bindId,h'.remoteDevice.trans h.remoteDevice⟩

theorem OnlyEmits.quiet {g g' : Gateway} (h : OnlyEmits g g') : Quiet g g' := by
  obtain ⟨fs,rfl⟩ := h
  exact ⟨⟨rfl,rfl,rfl,⟨fs,rfl⟩⟩,rfl,rfl,rfl,rfl,rfl⟩

theorem Quiet.iteLeft {g g' : Gateway} (b : Prop) [Decidable b] (h : Quiet g g') :
    Quiet g (if b then g' else g) := by
  split
  · exact h
  · exact .refl g

theorem Grows.iteLeft {g g' : Gateway} (b : Prop) [Decidable b] (h : Grows g g') :
    Grows g (if b then g' else g) := by
  split
  · exact h
  · exact .refl g

section
variable (g : Gateway)

theorem gatewayDataEnqueue_quiet (t i : UInt32) (r c v : UInt8) :
    Quiet g (gatewayDataEnqueue t i r c v g) := ⟨⟨rfl,rfl,rfl,List.prefix_refl _⟩,rfl,rfl,rfl,rfl,rfl⟩

theorem radioEnqueue_quiet (t : UInt32) (c m v : UInt8) :
    Quiet g (radioEnqueue t c m v g) := ⟨⟨rfl,rfl,rfl,List.prefix_refl _⟩,rfl,rfl,rfl,rfl,rfl⟩

theorem ackFrame_quiet (m : Message) : Quiet g (ackFrame m g) :=
  .iteLeft _ (gatewayDataEnqueue_quiet g _ _ _ _ _)

theorem flashSetRssi_quiet (id : UInt32) (v : UInt8) : Quiet g (flashSetRssi id v g).2 := by
  unfold flashSetRssi
  split
  · exact ⟨⟨rfl,rfl,rfl,List.prefix_refl _⟩,rfl,rfl,rfl,rfl,rfl⟩
  · exact .refl g

theorem flashSetMoto_quiet (id : UInt32) (v : UInt8) : Quiet g (flashSetMoto id v g).2 := by
  unfold flashSetMoto
  split
  · exact ⟨⟨rfl,rfl,rfl,List.prefix_refl _⟩,rfl,rfl,rfl,rfl,rfl⟩
  · exact .refl g

theorem flashSetUploadFlag_quiet (id : UInt32) (v : UInt8) :
    Quiet g (flashSetUploadFlag id v g).2 := by
  unfold flashSetUploadFlag
  split
  · exact ⟨⟨rfl,rfl,rfl,List.prefix_refl _⟩,rfl,rfl,rfl,rfl,rfl⟩
  · exact .refl g

theorem setSlaveHeart_onlyEmits (id : UInt32) (v : UInt8) :
    OnlyEmits g (setSlaveHeart id v g) := by
  refine foldDown_keeps (fun g' => OnlyEmits g g') (fun n g' h => h.trans ?_) (OnlyEmits.refl g)
  unfold setSlaveHeartBody
  split
  · split
    · split
      · exact deviceUp_onlyEmits _ _
      · exact .refl _
    · exact deviceDown_onlyEmits _ _
  · exact .refl _

theorem changeHeart_quiet (num : Nat) (id : UInt32) (v : UInt8) :
    Quiet g (changeHeart num id v g) := by
  have h := (setSlaveHeart_onlyEmits g id v).quiet
  exact ⟨⟨h.selfId,h.sync,h.syncRetry,h.cloud⟩,h.num,h.mainNum,h.id,h.bindId,h.remoteDevice⟩

theorem flashSetHeart_quiet (id : UInt32) (v : UInt8) : Quiet g (flashSetHeart id v g).2 := by
  unfold flashSetHeart
  split
  · rename_i num hs
    split
    · have hr : Quiet g (setHeartRecv num g) :=
        ⟨⟨rfl,rfl,rfl,List.prefix_refl _⟩,rfl,rfl,rfl,rfl,rfl⟩
      exact hr.trans (.iteLeft _ (changeHeart_quiet _ _ _ _))
    · exact .iteLeft _ (changeHeart_quiet _ _ _ _)
  · exact .refl g

theorem heartUpload_quiet (id : UInt32) (v : UInt8) : Quiet g (heartUpload id v g) :=
  (OnlyEmits.emit _ g).quiet.trans (flashSetHeart_quiet _ _ _)

theorem slaveHeart_quiet (id : UInt32) (v : UInt8) : Quiet g (slaveHeart id v g) :=
  (flashSetRssi_quiet g _ _).trans (reportEnum_onlyEmits _ _ _ _).quiet

theorem motoUpload_quiet (id : UInt32) (v : UInt8) : Quiet g (motoUpload id v g) :=
  (reportBool_onlyEmits g _ _ _).quiet.trans <|
    (flashSetMoto_quiet _ _ _).trans (reportBool_onlyEmits _ _ _ _).quiet

theorem deviceSeen_quiet (m : Message) : Quiet g (deviceSeen m g) :=
  (flashSetHeart_quiet g _ _).trans (slaveHeart_quiet _ _ _)

theorem warningCommand_quiet (m : Message) : Quiet g (warningCommand m g) := by
  unfold warningCommand
  split
  · exact (wariningUpload_onlyEmits g _ _ _ _).quiet
  · exact (wariningUpload_onlyEmits g _ _ _ _).quiet
  · exact (wariningUpload_onlyEmits g _ _ _ _).quiet
  · exact flashSetHeart_quiet g _ _
  · exact (deviceSeen_quiet g m).trans <| (wariningUpload_onlyEmits _ _ _ _ _).quiet.trans
      (motoUpload_quiet _ _ _)
  · exact (deviceSeen_quiet g m).trans (wariningUpload_onlyEmits _ _ _ _ _).quiet
  · exact (initWarnMain_onlyEmits g _).quiet
  · exact (wariningUpload_onlyEmits g _ _ _ _).quiet
  · exact (wariningUpload_onlyEmits g _ _ _ _).quiet
  · exact .refl g

theorem syncRefresh_cloud : (syncRefresh g).cloud = g.cloud := by
  unfold syncRefresh
  split <;> rfl

/-- Only the state report of a main (command 5) refreshes the synchronisation. -/
theorem controlCommand_quiet (m : Message) (h5 : m.command ≠ 5) :
    Quiet g (controlCommand m g) := by
  unfold controlCommand
  split
  · refine (motoUpload_quiet g (u32 m.fromId) (u8 m.data)).trans ?_
    exact .iteLeft _ (closeWarnMain_onlyEmits _ _).quiet
  · refine (deviceSeen_quiet g m).trans ?_
    split
    · refine (motoUpload_quiet _ (u32 m.fromId) (u8 m.data)).trans ?_
      exact .iteLeft _ (closeWarnSlave_onlyEmits _ _).quiet
    · exact motoUpload_quiet _ _ _
  · exact .iteLeft _ ((doorDelayWiFi_onlyEmits g _ _ _).quiet.trans (deviceSeen_quiet _ m))
  · exact motoUpload_quiet g _ _
  · contradiction
  · refine (reportBool_onlyEmits g 104 (u8 m.data) (u32 m.deviceId)).quiet.trans <|
      (deviceSeen_quiet _ m).trans <| (motoUpload_quiet _ (u32 m.fromId) (u8 m.data)).trans ?_
    exact .iteLeft _ (closeWarnSlave_onlyEmits _ _).quiet
  · exact .refl g

theorem controlCommand_five (m : Message) (h5 : m.command = 5) :
    Quiet (syncRefresh g) (controlCommand m g) := by
  simp only [controlCommand,h5]
  exact (motoUpload_quiet _ _ _).trans <| (gatewayDataEnqueue_quiet _ _ _ _ _ _).trans
    (initWarnMain_onlyEmits _ _).quiet

theorem getLearnNumsValid_grows : Grows g (getLearnNumsValid g).2 := by
  unfold getLearnNumsValid
  split
  · split
    · exact ⟨rfl,rfl,rfl,List.prefix_refl _⟩
    · exact .refl g
  · exact .refl g

theorem addMainNums_grows : Grows g (addMainNums g).2 := by
  unfold addMainNums
  dsimp only
  split
  · exact ⟨rfl,rfl,rfl,List.prefix_refl _⟩
  · exact .refl g

theorem delMainNums_grows : Grows g (delMainNums g).2 := by
  unfold delMainNums
  dsimp only
  split
  · exact ⟨rfl,rfl,rfl,List.prefix_refl _⟩
  · exact .refl g

theorem addFlash_grows (id b : UInt32) : Grows g (addFlash id b g).2 := by
  have h := getLearnNumsValid_grows g
  unfold addFlash
  dsimp only
  split
  · exact h
  · exact h.trans ⟨rfl,rfl,rfl,List.prefix_refl _⟩

theorem mainAddFlash_grows (id : UInt32) : Grows g (mainAddFlash id g).2 := by
  have h := addFlash_grows g id 0
  unfold mainAddFlash
  dsimp only
  split
  · exact h.trans (addMainNums_grows _)
  · exact h

theorem clearSlot_grows (n : Nat) (k : UInt32) : Grows g (clearSlot n k g) :=
  ⟨rfl,rfl,rfl,List.prefix_refl _⟩

theorem remoteDeviceDelete_grows (id : UInt32) : Grows g (remoteDeviceDelete id g).2 := by
  unfold remoteDeviceDelete
  split
  · exact ⟨rfl,rfl,rfl,List.prefix_refl _⟩
  · exact .refl g

theorem localDelete_onlyEmits (id : UInt32) : OnlyEmits g (localDelete id g) := by
  unfold localDelete
  dsimp only
  split
  · exact (OnlyEmits.emit _ g).trans (reportValue_onlyEmits _ _ _ _)
  · exact .emit _ g

theorem delDevice_grows (id : UInt32) : Grows g (delDevice id g).2 := by
  unfold delDevice
  split
  · exact ((Grows.iteLeft _ (delMainNums_grows g)).trans (remoteDeviceDelete_grows _ _)).trans
      (clearSlot_grows _ _ _)
  · exact .refl g

theorem delMainBindBody_grows (id : UInt32) (n : Nat) : Grows g (delMainBindBody id n g) := by
  unfold delMainBindBody
  split
  · exact ((Grows.iteLeft _ (delMainNums_grows g)).trans
      (localDelete_onlyEmits _ _).quiet.toGrows).trans (clearSlot_grows _ _ _)
  · exact .refl g

theorem delMainBind_grows (id : UInt32) : Grows g (delMainBind id g).2 :=
  foldDown_keeps (fun g' => Grows g g') (fun n g' h => h.trans (delMainBindBody_grows g' id n))
    (Grows.refl g)

theorem addDeviceCase_grows (id : UInt32) (add : Gateway → RtErr × Gateway) (pid : Text)
    (hadd : Grows g (add g).2) : Grows g (addDeviceCase id add (addWiFi pid) g) := by
  have h := Grows.iteLeft (flashGetKeyValid g.globalDevice id = .error) hadd
  unfold addDeviceCase
  dsimp only
  generalize (if flashGetKeyValid g.globalDevice id = .error then (add g).2 else g) = g1 at h ⊢
  split
  · exact (h.trans (flashSetUploadFlag_quiet _ _ _).toGrows).trans
      (addWiFi_onlyEmits _ _ _).quiet.toGrows
  · exact h

theorem deviceAdd2FlashWifi_grows (id b : UInt32) : Grows g (deviceAdd2FlashWifi id b g) := by
  have h := Grows.iteLeft (isMain id = true)
    (addDeviceCase_grows g id (mainAddFlash id) mainPid (mainAddFlash_grows g id))
  unfold deviceAdd2FlashWifi
  dsimp only
  split
  · exact h.trans (addDeviceCase_grows _ id _ slavePid (addFlash_grows _ _ _))
  · split
    · exact h.trans (addDeviceCase_grows _ id _ doorPid (addFlash_grows _ _ _))
    · exact h

theorem remoteDelete_grows (id : UInt32) : Grows g (remoteDelete id g) := by
  have h := (gatewayDataEnqueue_quiet g (getBindId g.globalDevice id) id 0 6 0).toGrows.trans
    (delDevice_grows _ id)
  unfold remoteDelete
  dsimp only
  split
  · exact h.trans (reportValue_onlyEmits _ _ _ _).quiet.toGrows
  · exact h

theorem syncOnline_quiet (m : Message) :
    Quiet (deviceAdd2FlashWifi (u32 m.deviceId) (u32 m.fromId) g) (syncOnline m g) := by
  unfold syncOnline
  exact (flashSetHeart_quiet _ _ _).trans <| (deviceUp_onlyEmits _ _).quiet.trans <|
    (slaveHeart_quiet _ _ _).trans (wariningUpload_onlyEmits _ _ _ _ _).quiet

theorem syncOffline_quiet (m : Message) :
    Quiet (deviceAdd2FlashWifi (u32 m.deviceId) (u32 m.fromId) g) (syncOffline m g) := by
  unfold syncOffline
  exact (flashSetHeart_quiet _ _ _).trans <| (slaveHeart_quiet _ _ _).trans
    (wariningUpload_onlyEmits _ _ _ _ _).quiet

theorem syncOnline_grows (m : Message) : Grows g (syncOnline m g) :=
  (deviceAdd2FlashWifi_grows g _ _).trans (syncOnline_quiet g m).toGrows

theorem syncOffline_grows (m : Message) : Grows g (syncOffline m g) :=
  (deviceAdd2FlashWifi_grows g _ _).trans (syncOffline_quiet g m).toGrows

theorem syncCommand_grows (m : Message) (h3 : m.type ≠ 3) (h5 : m.type ≠ 5) :
    Grows g (syncCommand m g) := by
  unfold syncCommand
  split
  · exact (deviceSeen_quiet g m).toGrows
  · exact (localDelete_onlyEmits g _).quiet.toGrows.trans (delDevice_grows _ _)
  · contradiction
  · exact delMainBind_grows g _
  · contradiction
  · exact syncOnline_grows g m
  · exact .refl g

theorem syncCommand_data (m : Message) (h : m.type = 3 ∨ m.type = 5) :
    Grows (syncRefresh g) (syncCommand m g) := by
  rcases h with h | h
  · simp only [syncCommand,h]
    exact syncOnline_grows _ m
  · simp only [syncCommand,h]
    exact syncOffline_grows _ m

end

/-- The registry columns of the table agree; the other columns, the cloud mirror and
the synchronisation state may differ. -/
structure SameRegistry (g g' : Gateway) : Prop where
  num : g'.globalDevice.num = g.globalDevice.num
  mainNum : g'.globalDevice.mainNum = g.globalDevice.mainNum
  id : g'.globalDevice.id = g.globalDevice.id
  bindId : g'.globalDevice.bindId = g.globalDevice.bindId

theorem SameRegistry.refl (g : Gateway) : SameRegistry g g := ⟨rfl,rfl,rfl,rfl⟩

theorem SameRegistry.trans {g g' g'' : Gateway} (h : SameRegistry g g') (h' : SameRegistry g' g'') :
    SameRegistry g g'' :=
  ⟨h'.num.trans h.num,h'.mainNum.trans h.mainNum,h'.id.trans h.id,h'.bindId.trans h.bindId⟩

theorem Quiet.sameRegistry {g g' : Gateway} (h : Quiet g g') : SameRegistry g g' :=
  ⟨h.num,h.mainNum,h.id,h.bindId⟩

theorem SameRegistry.of_table {g g' : Gateway} (h : g'.globalDevice = g.globalDevice) :
    SameRegistry g g' := by
  constructor <;> rw [h]

section
variable (g : Gateway)

theorem syncRefresh_sameRegistry : SameRegistry g (syncRefresh g) := by
  unfold syncRefresh
  split
  · exact ⟨rfl,rfl,rfl,rfl⟩
  · exact .refl g

theorem getNextMain_table : (getNextMain g).2.globalDevice = g.globalDevice := by
  unfold getNextMain
  dsimp only
  split <;> rfl

theorem syncTimeout_table : (syncTimeout g).globalDevice = g.globalDevice := by
  unfold syncTimeout syncTimeoutCallback
  split
  · have h := getNextMain_table { g with sync := { g.sync with timeoutT := false } }
    split <;> simp_all [releaseOnceSem]
  · rfl

theorem syncRequest_table : (syncRequest g).globalDevice = g.globalDevice :=
  getNextMain_table _

theorem subdevNodes_table (packet : List UInt8) (count left offset : Nat) (nodes : Nat → UInt8) :
    (subdevNodes packet count left offset nodes g).globalDevice = g.globalDevice := by
  induction left generalizing offset nodes g with
  | zero => rfl
  | succ left ih =>
    rw [subdevNodes,ih]
    rfl

theorem localSubdevList_table (mallocOk : Bool) (packet : List UInt8) :
    (localSubdevList mallocOk packet g).globalDevice = g.globalDevice := by
  unfold localSubdevList
  dsimp only
  split
  · split
    · rw [syncRequest_table,subdevNodes_table]
    · rw [subdevNodes_table]
  · rw [syncRequest_table]

theorem dpDownloadControlStateHandle_quiet (value subId : List UInt8) :
    Quiet g (dpDownloadControlStateHandle value subId g).2 := by
  have hq : Quiet g (if value.getD 0 0 = 0 then motoCloseRemote (u32 (atol (cString subId 0))) g
      else motoOpenRemote (u32 (atol (cString subId 0))) g) := by
    split <;> exact gatewayDataEnqueue_quiet g _ _ _ _ _
  unfold dpDownloadControlStateHandle
  dsimp only
  generalize (if value.getD 0 0 = 0 then motoCloseRemote (u32 (atol (cString subId 0))) g
    else motoOpenRemote (u32 (atol (cString subId 0))) g) = g1 at hq ⊢
  split <;> exact hq.trans (mcuDpUpdate_onlyEmits g1 _).quiet

/-- The sync thread touches the registry only by registering the device it addresses. -/
theorem syncSettle_sameRegistry :
    SameRegistry (if g.globalDevice.id g.sync.counter = 0 then g
      else deviceAdd2FlashWifi (g.globalDevice.id g.sync.counter) 0 g) (syncSettle g) := by
  unfold syncSettle
  dsimp only
  split
  · exact ⟨rfl,rfl,rfl,rfl⟩
  · generalize deviceAdd2FlashWifi (g.globalDevice.id g.sync.counter) 0 g = g1
    split
    · exact ⟨rfl,rfl,rfl,rfl⟩
    · have h := getNextMain_table { g1 with sync := { g1.sync with timeoutT := false, pc := .take } }
      split
      · rename_i g2 hg2
        rw [hg2] at h
        exact .of_table h
      · rename_i g2 hg2
        rw [hg2] at h
        have hset : SameRegistry g2 (setSyncRetry g2.sync.counter 0 g2) := ⟨rfl,rfl,rfl,rfl⟩
        have hg : SameRegistry g1 g2 := .of_table h
        exact hg.trans hset

theorem syncWait_sameRegistry : SameRegistry g (syncWait g) := by
  unfold syncWait
  dsimp only
  split <;> exact ⟨rfl,rfl,rfl,rfl⟩

end

theorem gatewayWarningSolve_sameRegistry (g : Gateway) (junk : Message) (rssi : Int)
    (buffer : List UInt8) (len : Nat) :
    SameRegistry g (gatewayWarningSolve junk rssi buffer len g) := by
  unfold gatewayWarningSolve
  dsimp only
  split
  · split
    · exact ((ackFrame_quiet g _).trans <| (heartUpload_quiet _ _ _).trans <|
        (mainRssiReport_onlyEmits _ _ _).quiet.trans (warningCommand_quiet _ _)).sameRegistry
    · exact .refl g
  · exact .refl g

theorem controlCommand_sameRegistry (g : Gateway) (m : Message) :
    SameRegistry g (controlCommand m g) := by
  by_cases h : m.command = 5
  · exact (syncRefresh_sameRegistry g).trans (controlCommand_five g m h).sameRegistry
  · exact (controlCommand_quiet g m h).sameRegistry

theorem gatewayControlSolve_sameRegistry (g : Gateway) (junk : Message) (rssi : Int)
    (buffer : List UInt8) (len : Nat) :
    SameRegistry g (gatewayControlSolve junk rssi buffer len g) := by
  unfold gatewayControlSolve
  dsimp only
  split
  · split
    · exact ((ackFrame_quiet g _).trans <| (mainRssiReport_onlyEmits _ _ _).quiet.trans
        (heartUpload_quiet _ _ _)).sameRegistry.trans (controlCommand_sameRegistry _ _)
    · exact .refl g
  · exact .refl g

def SyncAccepted (g : Gateway) (junk : Message) (buffer : List UInt8) (len : Nat) : Prop :=
  charAt buffer 1 = 'A' ∧ charAt buffer len = 'A' ∧
  u32 (parseSync (gatewayFields buffer) junk).targetId = g.selfId ∧
  checkValid g.globalDevice (u32 (parseSync (gatewayFields buffer) junk).fromId) = .eok

def ControlAccepted (g : Gateway) (junk : Message) (buffer : List UInt8) (len : Nat) : Prop :=
  charAt buffer 1 = 'C' ∧ charAt buffer len = 'C' ∧
  u32 (parseReport (gatewayFields buffer) junk).targetId = g.selfId ∧
  checkValid g.globalDevice (u32 (parseReport (gatewayFields buffer) junk).fromId) = .eok

instance (g : Gateway) (junk : Message) (buffer : List UInt8) (len : Nat) :
    Decidable (SyncAccepted g junk buffer len) := inferInstanceAs (Decidable (_ ∧ _))

instance (g : Gateway) (junk : Message) (buffer : List UInt8) (len : Nat) :
    Decidable (ControlAccepted g junk buffer len) := inferInstanceAs (Decidable (_ ∧ _))

theorem deviceLearn_grows (g : Gateway) (m : Message) : Grows g (deviceLearn m g) := by
  unfold deviceLearn
  split
  · exact .refl g
  · split
    · split
      · exact (radioEnqueue_quiet g _ _ _ _).toGrows
      · exact (delDevice_grows g _).trans (deviceAdd2FlashWifi_grows _ _ _)
      · exact .refl g
    · exact .refl g

theorem normalSolve_grows (g : Gateway) (junk : Message) (buffer : List UInt8) (len : Nat) :
    Grows g (normalSolve junk buffer len g) := by
  unfold normalSolve
  dsimp only
  split
  · split
    · split
      · exact .refl g
      · exact (Grows.iteLeft _ (deviceLearn_grows g _)).trans (heartUpload_quiet _ _ _).toGrows
    · exact .refl g
  · exact .refl g

end GatewayF411
