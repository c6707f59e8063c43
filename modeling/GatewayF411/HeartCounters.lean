import GatewayF411.Stations

set_option autoImplicit false

namespace GatewayF411
open CText SlotScan

structure CountersKept (g g' : Gateway) : Prop where
  heartRetry : g'.globalDevice.heartRetry = g.globalDevice.heartRetry
  heartCount : g'.globalDevice.heartCount = g.globalDevice.heartCount

theorem CountersKept.refl (g : Gateway) : CountersKept g g := ⟨rfl,rfl⟩

theorem CountersKept.trans {g g' g'' : Gateway} (h : CountersKept g g')
    (h' : CountersKept g' g'') : CountersKept g g'' :=
  ⟨h'.heartRetry.trans h.heartRetry,h'.heartCount.trans h.heartCount⟩

theorem CountersKept.iteLeft {g g' : Gateway} (b : Prop) [Decidable b] (h : CountersKept g g') :
    CountersKept g (if b then g' else g) := by
  split
  · exact h
  · exact .refl g

theorem CountersKept.of_table {g g' : Gateway} (h : g'.globalDevice = g.globalDevice) :
    CountersKept g g' := by
  constructor <;> rw [h]

theorem OnlyEmits.countersKept {g g' : Gateway} (h : OnlyEmits g g') : CountersKept g g' := by
  obtain ⟨fs,rfl⟩ := h
  exact ⟨rfl,rfl⟩

section
variable (g : Gateway)

theorem gatewayDataEnqueue_countersKept (t i : UInt32) (r c v : UInt8) :
    CountersKept g (gatewayDataEnqueue t i r c v g) := ⟨rfl,rfl⟩

theorem ackFrame_countersKept (m : Message) : CountersKept g (ackFrame m g) :=
  .iteLeft _ (gatewayDataEnqueue_countersKept g _ _ _ _ _)

theorem flashSetRssi_countersKept (id : UInt32) (v : UInt8) :
    CountersKept g (flashSetRssi id v g).2 := by
  unfold flashSetRssi
  split <;> exact ⟨rfl,rfl⟩

theorem flashSetMoto_countersKept (id : UInt32) (v : UInt8) :
    CountersKept g (flashSetMoto id v g).2 := by
  unfold flashSetMoto
  split <;> exact ⟨rfl,rfl⟩

theorem flashSetUploadFlag_countersKept (id : UInt32) (v : UInt8) :
    CountersKept g (flashSetUploadFlag id v g).2 := by
  unfold flashSetUploadFlag
  split <;> exact ⟨rfl,rfl⟩

theorem changeHeart_countersKept (n : Nat) (id : UInt32) (v : UInt8) :
    CountersKept g (changeHeart n id v g) := by
  have h := (setSlaveHeart_onlyEmits g id v).countersKept
  exact ⟨h.heartRetry,h.heartCount⟩

theorem flashSetHeart_countersKept (id : UInt32) (v : UInt8) :
    CountersKept g (flashSetHeart id v g).2 := by
  have hrecv : ∀ n, CountersKept g (setHeartRecv n g) := fun n => ⟨rfl,rfl⟩
  unfold flashSetHeart
  split
  · split
    · exact (hrecv _).trans (.iteLeft _ (changeHeart_countersKept _ _ _ _))
    · exact .iteLeft _ (changeHeart_countersKept g _ _ _)
  · exact .refl g

theorem heartUpload_countersKept (id : UInt32) (v : UInt8) : CountersKept g (heartUpload id v g) :=
  (OnlyEmits.emit _ g).countersKept.trans (flashSetHeart_countersKept _ _ _)

theorem slaveHeart_countersKept (id : UInt32) (v : UInt8) : CountersKept g (slaveHeart id v g) :=
  (flashSetRssi_countersKept g _ _).trans (reportEnum_onlyEmits _ _ _ _).countersKept

theorem motoUpload_countersKept (id : UInt32) (v : UInt8) : CountersKept g (motoUpload id v g) :=
  (reportBool_onlyEmits g _ _ _).countersKept.trans <|
    (flashSetMoto_countersKept _ _ _).trans (reportBool_onlyEmits _ _ _ _).countersKept

theorem deviceSeen_countersKept (m : Message) : CountersKept g (deviceSeen m g) :=
  (flashSetHeart_countersKept g _ _).trans (slaveHeart_countersKept _ _ _)

theorem syncRefresh_countersKept : CountersKept g (syncRefresh g) := by
  unfold syncRefresh
  split <;> exact ⟨rfl,rfl⟩

theorem warningCommand_countersKept (m : Message) : CountersKept g (warningCommand m g) := by
  have hwarn : ∀ (g : Gateway) type,
      CountersKept g (wariningUpload (u32 m.fromId) (u32 m.deviceId) type (u8 m.data) g) :=
    fun g type => (wariningUpload_onlyEmits g _ _ type _).countersKept
  unfold warningCommand
  split
  · exact hwarn g 1
  · exact hwarn g 0
  · exact hwarn g 2
  · exact flashSetHeart_countersKept g _ _
  · exact (deviceSeen_countersKept g m).trans ((hwarn _ 1).trans (motoUpload_countersKept _ _ _))
  · exact (deviceSeen_countersKept g m).trans (hwarn _ 2)
  · exact (initWarnMain_onlyEmits g _).countersKept
  · exact hwarn g 3
  · exact hwarn g 3
  · exact .refl g

theorem controlCommand_countersKept (m : Message) : CountersKept g (controlCommand m g) := by
  have hmoto : ∀ (g : Gateway) v, CountersKept g (motoUpload (u32 m.fromId) v g) :=
    fun g v => motoUpload_countersKept g _ v
  unfold controlCommand
  split
  · exact (hmoto g _).trans (.iteLeft _ (closeWarnMain_onlyEmits _ _).countersKept)
  · refine (deviceSeen_countersKept g m).trans ?_
    split
    · exact (hmoto _ _).trans (.iteLeft _ (closeWarnSlave_onlyEmits _ _).countersKept)
    · exact hmoto _ 0
  · split
    · exact (doorDelayWiFi_onlyEmits g _ _ _).countersKept.trans (deviceSeen_countersKept _ m)
    · exact .refl g
  · exact hmoto g _
  · exact (syncRefresh_countersKept g).trans <| (hmoto _ _).trans <|
      (gatewayDataEnqueue_countersKept _ _ _ _ _ _).trans (initWarnMain_onlyEmits _ _).countersKept
  · refine (reportBool_onlyEmits g 104 (u8 m.data) (u32 m.deviceId)).countersKept.trans ?_
    refine (deviceSeen_countersKept _ m).trans ((hmoto _ (u8 m.data)).trans ?_)
    exact .iteLeft _ (closeWarnSlave_onlyEmits _ _).countersKept
  · exact .refl g

theorem delDevice_countersKept (id : UInt32) : CountersKept g (delDevice id g).2 := by
  have h := delDevice_keeps (P := fun d => d.heartRetry = g.globalDevice.heartRetry ∧
    d.heartCount = g.globalDevice.heartCount) (fun _ _ _ hd => hd) (g := g) id ⟨rfl,rfl⟩
  exact ⟨h.1,h.2⟩

theorem delMainBind_countersKept (id : UInt32) : CountersKept g (delMainBind id g).2 := by
  have h := delMainBind_keeps (P := fun d => d.heartRetry = g.globalDevice.heartRetry ∧
    d.heartCount = g.globalDevice.heartCount) (fun _ _ _ hd => hd) (g := g) id ⟨rfl,rfl⟩
  exact ⟨h.1,h.2⟩

theorem addFlash_countersKept (id b : UInt32) : CountersKept g (addFlash id b g).2 := by
  rcases addFlash_cases id b g with ⟨hr,_⟩ | ⟨n,_,_,_,hr⟩
  · rw [hr]
    exact .refl g
  · rw [hr]
    exact ⟨rfl,rfl⟩

theorem registerDevice_countersKept (id b : UInt32) : CountersKept g (registerDevice id b g) := by
  unfold registerDevice
  split
  · split
    · rw [mainAddFlash_snd]
      split
      · refine (addFlash_countersKept g id 0).trans ?_
        constructor <;> rw [addMainNums_table]
      · exact addFlash_countersKept g id 0
    · exact addFlash_countersKept g id b
  · exact .refl g

theorem deviceAdd2FlashWifi_countersKept (id b : UInt32) :
    CountersKept g (deviceAdd2FlashWifi id b g) := by
  rw [deviceAdd2FlashWifi_eq]
  refine .iteLeft _ ((registerDevice_countersKept g id b).trans (.iteLeft _ ?_))
  exact (flashSetUploadFlag_countersKept _ id 0).trans (addWiFi_onlyEmits _ _ _).countersKept

theorem deviceLearn_countersKept (m : Message) : CountersKept g (deviceLearn m g) := by
  unfold deviceLearn
  split
  · exact .refl g
  · split
    · split
      · exact ⟨rfl,rfl⟩
      · exact (delDevice_countersKept g _).trans (deviceAdd2FlashWifi_countersKept _ _ _)
      · exact .refl g
    · exact .refl g

theorem syncOnline_countersKept (m : Message) : CountersKept g (syncOnline m g) := by
  unfold syncOnline
  exact (deviceAdd2FlashWifi_countersKept g _ _).trans <| (flashSetHeart_countersKept _ _ _).trans <|
    (deviceUp_onlyEmits _ _).countersKept.trans <| (slaveHeart_countersKept _ _ _).trans
      (wariningUpload_onlyEmits _ _ _ _ _).countersKept

theorem syncOffline_countersKept (m : Message) : CountersKept g (syncOffline m g) := by
  unfold syncOffline
  exact (deviceAdd2FlashWifi_countersKept g _ _).trans <| (flashSetHeart_countersKept _ _ _).trans <|
    (slaveHeart_countersKept _ _ _).trans (wariningUpload_onlyEmits _ _ _ _ _).countersKept

theorem syncCommand_countersKept (m : Message) : CountersKept g (syncCommand m g) := by
  unfold syncCommand
  split
  · exact deviceSeen_countersKept g m
  · exact (localDelete_onlyEmits g _).countersKept.trans (delDevice_countersKept _ _)
  · exact (syncRefresh_countersKept g).trans (syncOnline_countersKept _ m)
  · exact delMainBind_countersKept g _
  · exact (syncRefresh_countersKept g).trans (syncOffline_countersKept _ m)
  · exact syncOnline_countersKept g m
  · exact .refl g

theorem rf433RxCallback_countersKept (junk : Message) (rssi : Int) (buffer : List UInt8)
    (len : Nat) : CountersKept g (rf433RxCallback junk rssi buffer len g) := by
  have hsender : ∀ (m : Message) (id : UInt32),
      CountersKept g (heartUpload id 1 (mainRssiReport id rssi (ackFrame m g))) := fun m id =>
    (ackFrame_countersKept g m).trans <| (mainRssiReport_onlyEmits _ _ _).countersKept.trans
      (heartUpload_countersKept _ _ _)
  unfold rf433RxCallback normalSolve gatewaySyncSolve gatewayWarningSolve gatewayControlSolve
  dsimp only
  split
  · split
    · split
      · split
        · exact .refl g
        · exact (CountersKept.iteLeft _ (deviceLearn_countersKept g _)).trans
            (heartUpload_countersKept _ _ _)
      · exact .refl g
    · exact .refl g
  · refine .iteLeft _ (.iteLeft _ ?_)
    exact (hsender _ _).trans (syncCommand_countersKept _ _)
  · refine .iteLeft _ (.iteLeft _ ?_)
    exact (ackFrame_countersKept g _).trans <| (heartUpload_countersKept _ _ _).trans <|
      (mainRssiReport_onlyEmits _ _ _).countersKept.trans (warningCommand_countersKept _ _)
  · refine .iteLeft _ (.iteLeft _ ?_)
    exact (hsender _ _).trans (controlCommand_countersKept _ _)
  · exact .refl g

theorem subdeviceDelete_countersKept (subId : Text) : CountersKept g (subdeviceDelete subId g) := by
  have hdel := (gatewayDataEnqueue_countersKept g (getBindId g.globalDevice (u32 (atol subId)))
    (u32 (atol subId)) 0 6 0).trans (delDevice_countersKept _ (u32 (atol subId)))
  refine hdel.trans (OnlyEmits.countersKept ?_)
  unfold subdeviceDelete remoteDelete
  dsimp only
  split
  · exact (reportValue_onlyEmits _ _ _ _).trans (.emit _ _)
  · exact .emit _ _

theorem dpDownloadControlStateHandle_countersKept (value subId : List UInt8) :
    CountersKept g (dpDownloadControlStateHandle value subId g).2 := by
  have hq : CountersKept g (if value.getD 0 0 = 0 then motoCloseRemote (u32 (atol (cString subId 0))) g
      else motoOpenRemote (u32 (atol (cString subId 0))) g) := by
    split <;> exact ⟨rfl,rfl⟩
  unfold dpDownloadControlStateHandle
  dsimp only
  generalize (if value.getD 0 0 = 0 then motoCloseRemote (u32 (atol (cString subId 0))) g
    else motoOpenRemote (u32 (atol (cString subId 0))) g) = g1 at hq ⊢
  split <;> exact hq.trans (mcuDpUpdate_onlyEmits g1 _).countersKept

theorem syncSettle_countersKept : CountersKept g (syncSettle g) := by
  unfold syncSettle
  dsimp only
  split
  · exact ⟨rfl,rfl⟩
  · refine (deviceAdd2FlashWifi_countersKept g (g.globalDevice.id g.sync.counter) 0).trans ?_
    generalize deviceAdd2FlashWifi (g.globalDevice.id g.sync.counter) 0 g = g1
    split
    · exact ⟨rfl,rfl⟩
    · have h := getNextMain_table { g1 with sync := { g1.sync with timeoutT := false, pc := .take } }
      split
      · rename_i g2 hg2
        rw [hg2] at h
        exact .of_table h
      · rename_i g2 hg2
        rw [hg2] at h
        have hg : CountersKept g1 g2 := .of_table h
        exact hg.trans ⟨rfl,rfl⟩

theorem syncThread_countersKept : CountersKept g (syncThread g) := by
  unfold syncThread
  split
  · split <;> exact ⟨rfl,rfl⟩
  · exact syncSettle_countersKept g
  · unfold syncWait
    dsimp only
    split <;> exact ⟨rfl,rfl⟩

theorem step_countersKept (e : Event) : CountersKept g (step g e) := by
  cases e with
  | radio junk rssi buffer len => exact rf433RxCallback_countersKept g junk rssi buffer len
  | subdeviceDelete subId => exact subdeviceDelete_countersKept g subId
  | subdevList mallocOk packet => exact .of_table (localSubdevList_table g mallocOk packet)
  | controlState value subId => exact dpDownloadControlStateHandle_countersKept g value subId
  | syncThread => exact syncThread_countersKept g
  | syncTimeout => exact .of_table (syncTimeout_table g)
  | radioDequeue => exact ⟨rfl,rfl⟩

theorem heartRequest_countersKept (idBuf : Text) : CountersKept g (heartRequest idBuf g) :=
  (CountersKept.iteLeft _ (flashSetUploadFlag_countersKept g _ _)).trans
    (heartRequest_onlyEmits idBuf g).countersKept

end

end GatewayF411
