import GatewayF411.Lib.Runs
import GatewayF411.Table
import Mathlib.Data.FinEnum

set_option autoImplicit false

namespace GatewayF411
open CText SlotScan Runs

def DeviceInfo.mains (d : DeviceInfo) : Set UInt32 :=
  {id | d.Registered id ∧ isMain id = true}

structure MainsCounted (d : DeviceInfo) : Prop where
  inv : d.Inv
  counted : d.mains.ncard ≤ d.mainNum
  limit : d.mainNum ≤ 3

theorem DeviceInfo.Inv.mem_mains {d : DeviceInfo} (h : d.Inv) {id : UInt32} :
    id ∈ d.mains ↔ isMain id = true ∧ ∃ n, d.id n = id := by
  constructor
  · rintro ⟨hr,hm⟩
    exact ⟨hm,(h.registered_iff.mp hr).2⟩
  · rintro ⟨hm,hn⟩
    exact ⟨h.registered_iff.mpr ⟨isMain_ne_zero hm,hn⟩,hm⟩

theorem MainsCounted.congr {d d' : DeviceInfo} (h : MainsCounted d) (hnum : d'.num = d.num)
    (hmain : d'.mainNum = d.mainNum) (hid : d'.id = d.id) (hbind : d'.bindId = d.bindId) :
    MainsCounted d' := by
  have hmains : d'.mains = d.mains := by
    simp only [DeviceInfo.mains,DeviceInfo.Registered,hnum,hid]
  refine ⟨h.inv.congr hnum hid hbind,?_,?_⟩
  · rw [hmains,hmain]
    exact h.counted
  · rw [hmain]
    exact h.limit

theorem SameRegistry.mainsCounted {g g' : Gateway} (hs : SameRegistry g g')
    (h : MainsCounted g.globalDevice) : MainsCounted g'.globalDevice :=
  h.congr hs.num hs.mainNum hs.id hs.bindId

theorem mainsCounted_zero : MainsCounted .zero := by
  have hempty : DeviceInfo.zero.mains = ∅ := by
    refine Set.eq_empty_iff_forall_notMem.mpr fun id hid => ?_
    obtain ⟨hm,n,hn⟩ := DeviceInfo.inv_zero.mem_mains.mp hid
    exact isMain_ne_zero hm hn.symm
  refine ⟨DeviceInfo.inv_zero,?_,?_⟩
  · simp [hempty]
  · simp [DeviceInfo.zero]

theorem mains_clear {d : DeviceInfo} (h : d.Inv) (x : UInt32) (n : Nat) :
    (d.clear x n).mains ⊆ d.mains \ {d.id n} := by
  intro id hid
  obtain ⟨hm,j,hj⟩ := (h.clear x n).mem_mains.mp hid
  have hne := isMain_ne_zero hm
  have hjn : j ≠ n := by
    rintro rfl
    simp only [DeviceInfo.clear,Function.update_self] at hj
    exact hne hj.symm
  simp only [DeviceInfo.clear,Function.update_of_ne hjn] at hj
  refine ⟨h.mem_mains.mpr ⟨hm,j,hj⟩,?_⟩
  intro heq
  have heq : id = d.id n := heq
  exact hjn (h.keyed.distinct j n (by rw [hj]; exact hne) (by rw [hj,heq]))

/-- Freeing a slot lowers the counter only together with the number of mains: the
id under which it is freed is a main only if the slot holds it. -/
theorem MainsCounted.clear {d : DeviceInfo} (h : MainsCounted d) {x : UInt32} {n : Nat}
    (hx : isMain x = true → d.id n = x) : MainsCounted (d.clear x n) := by
  have hsub := Set.ncard_le_ncard (mains_clear h.inv x n) (Set.toFinite _)
  have hcount := h.counted
  have hlimit := h.limit
  by_cases hm : isMain x = true
  · have hmem : d.id n ∈ d.mains := by
      rw [hx hm]
      exact h.inv.mem_mains.mpr ⟨hm,n,hx hm⟩
    have hmain : (d.clear x n).mainNum = d.mainNum-1 := by simp [DeviceInfo.clear,hm]
    rw [Set.ncard_sdiff_singleton_of_mem hmem] at hsub
    exact ⟨h.inv.clear x n,by omega,by omega⟩
  · have hle := Set.ncard_sdiff_singleton_le d.mains (d.id n)
    have hmain : (d.clear x n).mainNum = d.mainNum := by simp [DeviceInfo.clear,hm]
    exact ⟨h.inv.clear x n,by omega,by omega⟩

theorem delDevice_mainsCounted {g : Gateway} (h : MainsCounted g.globalDevice) (id : UInt32) :
    MainsCounted (delDevice id g).2.globalDevice := by
  cases hs : findSlot g.globalDevice id with
  | none =>
    rw [delDevice_none hs]
    exact h
  | some n =>
    rw [delDevice_table hs]
    exact h.clear (fun _ => (findSlot_sound hs).2.2)

theorem delMainBind_mainsCounted {g : Gateway} (h : MainsCounted g.globalDevice) {a : UInt32}
    (ha : isMain a = true → ∀ n, g.globalDevice.bindId n ≠ a) :
    MainsCounted (delMainBind a g).2.globalDevice := by
  have hbody : ∀ (n : Nat) (s : Gateway), (MainsCounted s.globalDevice ∧
      (isMain a = true → ∀ n, s.globalDevice.bindId n ≠ a)) →
      MainsCounted (delMainBindBody a n s).globalDevice ∧
      (isMain a = true → ∀ j, (delMainBindBody a n s).globalDevice.bindId j ≠ a) := by
    rintro n s ⟨hc,hb⟩
    by_cases hn : s.globalDevice.bindId n = a ∨ s.globalDevice.id n = a
    · rw [delMainBindBody_table hn]
      refine ⟨hc.clear (fun hm => hn.resolve_left (hb hm n)),fun hm j => ?_⟩
      by_cases hj : j = n
      · simpa [DeviceInfo.clear,hj] using (isMain_ne_zero hm).symm
      · simpa [DeviceInfo.clear,hj] using hb hm j
    · rw [delMainBindBody_skip hn]
      exact ⟨hc,hb⟩
  exact (foldDown_keeps _ hbody ⟨h,ha⟩).1

theorem mains_placeDevice {g : Gateway} (h : g.globalDevice.Inv) {n : Nat} {id b : UInt32}
    (h1 : 1 ≤ n) (hn : n ≤ 49) (hid : id ≠ 0) (hfresh : ∀ j, g.globalDevice.id j ≠ id) {x : UInt32}
    (hx : x ∈ (placeDevice n id b (growNum n g)).globalDevice.mains) :
    x ∈ g.globalDevice.mains ∨ (x = id ∧ isMain id = true) := by
  obtain ⟨hm,j,hj⟩ := (placeDevice_inv h h1 hn hid hfresh).mem_mains.mp hx
  by_cases hjn : j = n
  · have hxid : x = id := by simpa [placeDevice,growNum,hjn] using hj.symm
    exact .inr ⟨hxid,hxid ▸ hm⟩
  · exact .inl (h.mem_mains.mpr ⟨hm,j,by simpa [placeDevice,growNum,hjn] using hj⟩)

theorem addFlash_mainsCounted {g : Gateway} (h : MainsCounted g.globalDevice) {id b : UInt32}
    (hid : id ≠ 0) (hfresh : ∀ j, g.globalDevice.id j ≠ id) (hm : ¬ isMain id = true) :
    MainsCounted (addFlash id b g).2.globalDevice := by
  rcases addFlash_cases id b g with ⟨hr,_⟩ | ⟨n,h1,hn,_,hr⟩
  · rw [hr]
    exact h
  · rw [hr]
    have hsub : (placeDevice n id b (growNum n g)).globalDevice.mains ⊆ g.globalDevice.mains := by
      intro x hx
      exact (mains_placeDevice h.inv h1 hn hid hfresh hx).resolve_right (fun hx => hm hx.2)
    exact ⟨placeDevice_inv h.inv h1 hn hid hfresh,
      (Set.ncard_le_ncard hsub (Set.toFinite _)).trans h.counted,h.limit⟩

theorem mainAddFlash_mainsCounted {g : Gateway} (h : MainsCounted g.globalDevice) {id : UInt32}
    (hid : id ≠ 0) (hfresh : ∀ j, g.globalDevice.id j ≠ id) (hroom : g.globalDevice.mainNum < 3) :
    MainsCounted (mainAddFlash id g).2.globalDevice := by
  rw [mainAddFlash_snd]
  rcases addFlash_cases id 0 g with ⟨hr,_⟩ | ⟨n,h1,hn,_,hr⟩
  · simpa [hr] using h
  · have hsub : (placeDevice n id 0 (growNum n g)).globalDevice.mains ⊆
        insert id g.globalDevice.mains := by
      intro x hx
      rcases mains_placeDevice h.inv h1 hn hid hfresh hx with hold | hnew
      · exact .inr hold
      · exact .inl hnew.1
    have hcard := (Set.ncard_le_ncard hsub (Set.toFinite _)).trans (Set.ncard_insert_le _ _)
    have hcount := h.counted
    have hinv := placeDevice_inv (b := 0) h.inv h1 hn hid hfresh
    have hmain : (placeDevice n id 0 (growNum n g)).globalDevice.mainNum < 3 := hroom
    simp only [hr,if_true,addMainNums_table,hmain]
    refine ⟨hinv.congr rfl rfl rfl,?_,?_⟩
    · show (placeDevice n id 0 (growNum n g)).globalDevice.mains.ncard ≤ g.globalDevice.mainNum+1
      omega
    · show g.globalDevice.mainNum+1 ≤ 3
      omega

def MayRegister (d : DeviceInfo) (id : UInt32) : Prop :=
  isMain id = true → flashGetKeyValid d id ≠ .eok → getMainNums d = .eok

theorem getMainNums_eok {d : DeviceInfo} : getMainNums d = .eok ↔ d.mainNum < 3 := by
  by_cases h : d.mainNum < 3 <;> simp [getMainNums,mainSupport,h]

theorem deviceAdd2FlashWifi_mainsCounted {g : Gateway} (h : MainsCounted g.globalDevice)
    {id fromId : UInt32} (hreg : MayRegister g.globalDevice id) :
    MainsCounted (deviceAdd2FlashWifi id fromId g).globalDevice := by
  rw [deviceAdd2FlashWifi_eq]
  by_cases hr : inRange id = true
  · have hid := inRange_ne_zero hr
    rw [if_pos hr]
    refine (announceDevice_quiet _ _ _).sameRegistry.mainsCounted ?_
    by_cases hnew : flashGetKeyValid g.globalDevice id = .error
    · have hfresh := (h.inv.fresh_iff hid).mp hnew
      simp only [registerDevice,hnew,if_true]
      by_cases hm : isMain id = true
      · simp only [hm,if_true]
        exact mainAddFlash_mainsCounted h hid hfresh
          (getMainNums_eok.mp (hreg hm (by simp [hnew])))
      · simp only [hm]
        exact addFlash_mainsCounted h hid hfresh hm
    · simp only [registerDevice,hnew,if_false]
      exact h
  · rw [if_neg hr]
    exact h

theorem flashGetKeyValid_congr {d d' : DeviceInfo} (hnum : d'.num = d.num) (hid : d'.id = d.id)
    (x : UInt32) : flashGetKeyValid d' x = flashGetKeyValid d x := by
  rw [flashGetKeyValid,flashGetKeyValid,findSlot,findSlot,hnum,hid]

theorem SameRegistry.mayRegister {g g' : Gateway} (hs : SameRegistry g g') {id : UInt32}
    (h : MayRegister g.globalDevice id) : MayRegister g'.globalDevice id := by
  intro hm hv
  rw [flashGetKeyValid_congr hs.num hs.id] at hv
  have hroom := getMainNums_eok.mp (h hm hv)
  rw [getMainNums_eok,hs.mainNum]
  exact hroom

theorem delDevice_mayRegister {g : Gateway} (h : MainsCounted g.globalDevice) {id : UInt32}
    (hguard : ¬ (flashGetKeyValid g.globalDevice id ≠ .eok ∧ getMainNums g.globalDevice ≠ .eok)) :
    MayRegister (delDevice id g).2.globalDevice id := by
  intro hm _
  rw [getMainNums_eok]
  cases hs : findSlot g.globalDevice id with
  | none =>
    have hnew : flashGetKeyValid g.globalDevice id ≠ .eok := by
      rw [findSlot_eq_none.mp hs]
      simp
    rw [delDevice_none hs]
    by_contra hfull
    exact hguard ⟨hnew,fun he => hfull (getMainNums_eok.mp he)⟩
  | some n =>
    have hlimit := h.limit
    rw [delDevice_table hs]
    simp only [DeviceInfo.clear,hm,if_true]
    omega

theorem deviceLearn_mainsCounted {g : Gateway} (h : MainsCounted g.globalDevice) (m : Message) :
    MainsCounted (deviceLearn m g).globalDevice := by
  unfold deviceLearn
  split
  · exact h
  · rename_i hguard
    split
    · split
      · exact (radioEnqueue_quiet g _ _ _ _).sameRegistry.mainsCounted h
      · exact deviceAdd2FlashWifi_mainsCounted (delDevice_mainsCounted h _)
          (delDevice_mayRegister h hguard)
      · exact h
    · exact h

theorem normalSolve_mainsCounted {g : Gateway} (h : MainsCounted g.globalDevice) (junk : Message)
    (buffer : List UInt8) (len : Nat) :
    MainsCounted (normalSolve junk buffer len g).globalDevice := by
  unfold normalSolve
  dsimp only
  split
  · split
    · split
      · exact h
      · refine (heartUpload_quiet _ _ _).sameRegistry.mainsCounted ?_
        split
        · exact deviceLearn_mainsCounted h _
        · exact h
    · exact h
  · exact h

/-- What a sync frame must not do to the registry: register a main that the counter
has no room for, or delete a main together with devices bound to it. -/
def SyncKeepsCount (d : DeviceInfo) (m : Message) : Prop :=
  (m.type = 3 ∨ m.type = 5 ∨ m.type = 6 → MayRegister d (u32 m.deviceId)) ∧
  (m.type = 4 → isMain (u32 m.fromId) = true →
    ∀ n, 1 ≤ n → n ≤ d.num → d.bindId n ≠ u32 m.fromId)

theorem SameRegistry.syncKeepsCount {g g' : Gateway} (hs : SameRegistry g g') {m : Message}
    (h : SyncKeepsCount g.globalDevice m) : SyncKeepsCount g'.globalDevice m := by
  refine ⟨fun ht => hs.mayRegister (h.1 ht),fun ht hm n h1 hn => ?_⟩
  rw [hs.bindId]
  exact h.2 ht hm n h1 (by rw [← hs.num]; exact hn)

theorem syncCommand_mainsCounted {g : Gateway} (h : MainsCounted g.globalDevice) {m : Message}
    (hc : SyncKeepsCount g.globalDevice m) : MainsCounted (syncCommand m g).globalDevice := by
  have hs := syncRefresh_sameRegistry g
  unfold syncCommand
  split
  · exact (deviceSeen_quiet g m).sameRegistry.mainsCounted h
  · exact delDevice_mainsCounted
      ((localDelete_onlyEmits g _).quiet.sameRegistry.mainsCounted h) _
  · rename_i ht
    exact (syncOnline_quiet _ m).sameRegistry.mainsCounted
      (deviceAdd2FlashWifi_mainsCounted (hs.mainsCounted h) (hs.mayRegister (hc.1 (.inl ht))))
  · rename_i ht
    refine delMainBind_mainsCounted h fun hm n hn => ?_
    have hne := h.inv.bound_occupied (isMain_ne_zero hm) (.inl hn)
    have hb := h.inv.keyed.bounded n hne
    exact hc.2 ht hm n hb.1 hb.2 hn
  · rename_i ht
    exact (syncOffline_quiet _ m).sameRegistry.mainsCounted
      (deviceAdd2FlashWifi_mainsCounted (hs.mainsCounted h) (hs.mayRegister (hc.1 (.inr (.inl ht)))))
  · rename_i ht
    exact (syncOnline_quiet g m).sameRegistry.mainsCounted
      (deviceAdd2FlashWifi_mainsCounted h (hc.1 (.inr (.inr ht))))
  · exact h

/-- The condition on one event: only accepted sync frames are restricted. -/
def KeepsCount (g : Gateway) : Event → Prop
  | .radio junk _ buffer len => SyncAccepted g junk buffer len →
      SyncKeepsCount g.globalDevice (parseSync (gatewayFields buffer) junk)
  | _ => True

theorem gatewaySyncSolve_mainsCounted {g : Gateway} (h : MainsCounted g.globalDevice)
    (junk : Message) (rssi : Int) (buffer : List UInt8) (len : Nat) (hroute : charAt buffer 1 = 'A')
    (hc : KeepsCount g (.radio junk rssi buffer len)) :
    MainsCounted (gatewaySyncSolve junk rssi buffer len g).globalDevice := by
  unfold gatewaySyncSolve
  dsimp only
  split
  · rename_i hend
    split
    · rename_i hacc
      have hs := ((ackFrame_quiet g (parseSync (gatewayFields buffer) junk)).trans <|
        (mainRssiReport_onlyEmits _ (u32 (parseSync (gatewayFields buffer) junk).fromId)
          rssi).quiet.trans (heartUpload_quiet _ (u32 (parseSync (gatewayFields buffer) junk).fromId)
          1)).sameRegistry
      exact syncCommand_mainsCounted (hs.mainsCounted h)
        (hs.syncKeepsCount (hc ⟨hroute,hend,hacc.1,hacc.2⟩))
    · exact h
  · exact h

theorem rf433RxCallback_mainsCounted {g : Gateway} (h : MainsCounted g.globalDevice)
    (junk : Message) (rssi : Int) (buffer : List UInt8) (len : Nat)
    (hc : KeepsCount g (.radio junk rssi buffer len)) :
    MainsCounted (rf433RxCallback junk rssi buffer len g).globalDevice := by
  unfold rf433RxCallback
  split
  · exact normalSolve_mainsCounted h junk buffer len
  · rename_i hroute
    exact gatewaySyncSolve_mainsCounted h junk rssi buffer len hroute hc
  · exact (gatewayWarningSolve_sameRegistry g junk rssi buffer len).mainsCounted h
  · exact (gatewayControlSolve_sameRegistry g junk rssi buffer len).mainsCounted h
  · exact h

theorem syncThread_mainsCounted {g : Gateway} (h : MainsCounted g.globalDevice) :
    MainsCounted (syncThread g).globalDevice := by
  unfold syncThread
  split
  · split <;> exact h
  · refine (syncSettle_sameRegistry g).mainsCounted ?_
    split
    · exact h
    · rename_i hne
      refine deviceAdd2FlashWifi_mainsCounted h fun _ hv => absurd ?_ hv
      exact (h.inv.valid_iff hne).mpr ⟨_,rfl⟩
  · exact (syncWait_sameRegistry g).mainsCounted h

theorem remoteDelete_mainsCounted {g : Gateway} (h : MainsCounted g.globalDevice) (id : UInt32) :
    MainsCounted (remoteDelete id g).globalDevice := by
  have hd := delDevice_mainsCounted ((gatewayDataEnqueue_quiet g (getBindId g.globalDevice id) id
    0 6 0).sameRegistry.mainsCounted h) id
  unfold remoteDelete
  dsimp only
  split
  · exact (reportValue_onlyEmits _ _ _ _).quiet.sameRegistry.mainsCounted hd
  · exact hd

theorem step_mainsCounted (g : Gateway) (e : Event) (h : MainsCounted g.globalDevice)
    (hc : KeepsCount g e) : MainsCounted (step g e).globalDevice := by
  cases e with
  | radio junk rssi buffer len => exact rf433RxCallback_mainsCounted h junk rssi buffer len hc
  | subdeviceDelete subId =>
    exact (OnlyEmits.emit _ _).quiet.sameRegistry.mainsCounted (remoteDelete_mainsCounted h _)
  | subdevList mallocOk packet =>
    exact (SameRegistry.of_table (localSubdevList_table g mallocOk packet)).mainsCounted h
  | controlState value subId =>
    exact (dpDownloadControlStateHandle_quiet g value subId).sameRegistry.mainsCounted h
  | syncThread => exact syncThread_mainsCounted h
  | syncTimeout => exact (SameRegistry.of_table (syncTimeout_table g)).mainsCounted h
  | radioDequeue => exact h

/-- The limit holds in every state of a run from the empty table in which no accepted
sync frame registers a main beyond the counter or deletes a main with its bound devices. -/
theorem main_limit_kept (selfId : UInt32) (es : List Event)
    (h : Along step KeepsCount (powerOn selfId []) es) :
    (run (powerOn selfId []) es).globalDevice.mains.ncard ≤ 3 := by
  have hc : MainsCounted (run (powerOn selfId []) es).globalDevice :=
    foldl_along (fun g : Gateway => MainsCounted g.globalDevice) step_mainsCounted
      mainsCounted_zero h
  exact hc.counted.trans hc.limit

/-- A sync frame of type 6 in which main 10000001 reports the slave 20000001. -/
def slaveOnlineText : Text :=
  ['A','{','0',',','6',',','4','0','0','0','0','0','0','0',',','1','0','0','0','0','0','0','1',',',
    '2','0','0','0','0','0','0','1',',','1',',','0','}','A']

theorem main_limit_kept_run :
    Along step KeepsCount (powerOn 40000000 []) [learnMain '1',radioText slaveOnlineText] ∧
    (run (powerOn 40000000 []) [learnMain '1',radioText slaveOnlineText]).globalDevice.mains.ncard
      ≤ 3 := by
  have h : Along step KeepsCount (powerOn 40000000 []) [learnMain '1',radioText slaveOnlineText] :=
    ⟨fun hacc => absurd hacc.1 (by decide),
      fun _ => ⟨fun _ hm => absurd hm (by decide),fun ht => absurd ht (by decide)⟩,trivial⟩
  exact ⟨h,main_limit_kept 40000000 _ h⟩

def fourthMainText : Text :=
  ['A','{','0',',','3',',','4','0','0','0','0','0','0','0',',','1','0','0','0','0','0','0','1',',',
    '1','0','0','0','0','0','0','4',',','1',',','0','}','A']

def fourthMainRun : List Event :=
  [learnMain '1',learnMain '2',learnMain '3',radioText fourthMainText]

theorem main_limit_counterexample :
    ¬ ∀ (selfId : UInt32) (es : List Event),
      (run (powerOn selfId []) es).globalDevice.mains.ncard ≤ 3 := by
  intro h
  have hle := h 40000000 fourthMainRun
  have hsub : (↑({10000001,10000002,10000003,10000004} : Finset UInt32) : Set UInt32) ⊆
      (run (powerOn 40000000 []) fourthMainRun).globalDevice.mains := by
    intro id hid
    simp only [Finset.coe_insert,Finset.coe_singleton,Set.mem_insert_iff,
      Set.mem_singleton_iff] at hid
    rcases hid with rfl | rfl | rfl | rfl
    · exact ⟨⟨by decide,1,by decide⟩,by decide⟩
    · exact ⟨⟨by decide,2,by decide⟩,by decide⟩
    · exact ⟨⟨by decide,3,by decide⟩,by decide⟩
    · exact ⟨⟨by decide,4,by decide⟩,by decide⟩
  have hcard := Set.ncard_le_ncard hsub (Set.toFinite _)
  rw [Set.ncard_coe_finset] at hcard
  have hfour : ({10000001,10000002,10000003,10000004} : Finset UInt32).card = 4 := by decide
  omega

end GatewayF411
