import GatewayF411.MainLimit
import GatewayF411.DeviceMap
import GatewayF411.Registry
import GatewayF411.HeartCalls

/-!
Slaves and doors are bound to the main through which they were reported. `Del_MainBind`
takes them away with their main; the deletion of a single main leaves them behind.
-/

set_option autoImplicit false

namespace GatewayF411
open CText SlotScan Runs

/-- Every registered slave or door is bound to a registered main. -/
def NoOrphans (d : DeviceInfo) : Prop :=
  ∀ n, 1 ≤ n → n ≤ d.num → (isSlave (d.id n) || isDoor (d.id n)) = true → d.bindId n ∈ d.mains

/-- Sync frames that the gateway accepts come from a main. -/
def FromMain (g : Gateway) : Event → Prop
  | .radio junk _ buffer len => SyncAccepted g junk buffer len →
      isMain (u32 (parseSync (gatewayFields buffer) junk).fromId) = true
  | _ => True

def NoneBound (d : DeviceInfo) (id : UInt32) : Prop :=
  isMain id = true → ∀ n, 1 ≤ n → n ≤ d.num → d.bindId n ≠ id

/-- A main that is deleted alone, by the cloud or by a sync frame of type 2, has nothing
bound to it. -/
def SparesBound (g : Gateway) : Event → Prop
  | .radio junk _ buffer len => SyncAccepted g junk buffer len →
      (parseSync (gatewayFields buffer) junk).type = 2 →
      NoneBound g.globalDevice (u32 (parseSync (gatewayFields buffer) junk).deviceId)
  | .subdeviceDelete subId => NoneBound g.globalDevice (u32 (atol subId))
  | _ => True

def MainsUnbound (d : DeviceInfo) : Prop := ∀ n, isMain (d.id n) = true → d.bindId n = 0

structure RegistryInv (g : Gateway) : Prop extends WellKept g where
  unbound : MainsUnbound g.globalDevice

theorem MainsUnbound.clear {d : DeviceInfo} (h : MainsUnbound d) (id : UInt32) (n : Nat) :
    MainsUnbound (d.clear id n) := by
  intro j hj
  by_cases hjn : j = n
  · simp [DeviceInfo.clear,hjn]
  · simp only [DeviceInfo.clear,Function.update_of_ne hjn] at hj ⊢
    exact h j hj

theorem MainsUnbound.add {g : Gateway} (h : MainsUnbound g.globalDevice) (id b : UInt32) :
    MainsUnbound (deviceAdd2FlashWifi id b g).globalDevice := by
  rcases deviceAdd2FlashWifi_columns id b g with ⟨hid,hbind,_⟩ | ⟨n,_,_,_,hid,hbind,_⟩
  · intro j
    rw [hid,hbind]
    exact h j
  · intro j
    rw [hid,hbind]
    by_cases hj : j = n
    · subst hj
      intro hm
      simp only [Function.update_self] at hm ⊢
      rw [if_pos hm]
    · simp only [Function.update_of_ne hj]
      exact h j

theorem MainsUnbound.edits {g g' : Gateway} (h : MainsUnbound g.globalDevice) (he : Edits g g') :
    MainsUnbound g'.globalDevice := by
  induction he with
  | same hs =>
    intro n
    rw [hs.id,hs.bindId]
    exact h n
  | delDevice id g => exact delDevice_keeps (fun _ id n hd => hd.clear id n) id h
  | delMainBind id g => exact delMainBind_keeps (fun _ id n hd => hd.clear id n) id h
  | add id fromId g => exact h.add id fromId
  | trans _ _ ih ih' => exact ih' (ih h)

theorem RegistryInv.edits {g g' : Gateway} (h : RegistryInv g) (he : Edits g g') :
    RegistryInv g' := ⟨h.toWellKept.edits he,h.unbound.edits he⟩

theorem powerOn_registryInv (selfId : UInt32) : RegistryInv (powerOn selfId []) :=
  ⟨powerOn_wellKept selfId,fun _ _ => rfl⟩

theorem KnownKinds.sub {d : DeviceInfo} (h : KnownKinds d) {n : Nat} (hn : d.id n ≠ 0)
    (hm : ¬ isMain (d.id n) = true) : (isSlave (d.id n) || isDoor (d.id n)) = true := by
  have hr := h n hn
  unfold inRange at hr
  simpa [hm] using hr

theorem sub_not_main {id : UInt32} (h : (isSlave id || isDoor id) = true) : ¬ isMain id = true := by
  intro hm
  have hd := isMain_disjoint hm
  simp [hd] at h

theorem sub_ne_zero {id : UInt32} (h : (isSlave id || isDoor id) = true) : id ≠ 0 := by
  rintro rfl
  simp [isSlave,isDoor] at h

section Table
variable {d : DeviceInfo} (h : d.Inv)
include h

theorem DeviceInfo.Inv.noOrphans_iff : NoOrphans d ↔
    ∀ n, (isSlave (d.id n) || isDoor (d.id n)) = true →
      isMain (d.bindId n) = true ∧ ∃ k, d.id k = d.bindId n := by
  constructor
  · intro ho n hn
    have hb := h.keyed.bounded n (sub_ne_zero hn)
    exact h.mem_mains.mp (ho n hb.1 hb.2 hn)
  · intro ho n _ _ hn
    exact h.mem_mains.mpr (ho n hn)

theorem DeviceInfo.Inv.noneBound_iff {id : UInt32} :
    NoneBound d id ↔ (isMain id = true → ∀ n, d.bindId n ≠ id) := by
  refine forall_congr' fun hm => ⟨fun hb n hn => ?_,fun hb n _ _ => hb n⟩
  have hbound := h.keyed.bounded n (h.bound_occupied (isMain_ne_zero hm) (.inl hn))
  exact hb n hbound.1 hbound.2 hn

theorem noOrphans_clear_iff (hk : KnownKinds d) (hu : MainsUnbound d) (ho : NoOrphans d)
    {id : UInt32} {n : Nat} (hn : d.id n = id) :
    NoOrphans (d.clear id n) ↔ NoneBound d id := by
  rw [(h.clear id n).noOrphans_iff,h.noneBound_iff]
  have ho := h.noOrphans_iff.mp ho
  constructor
  · intro hclear hm j hj
    have hocc := h.bound_occupied (isMain_ne_zero hm) (.inl hj)
    have hnotMain : ¬ isMain (d.id j) = true := by
      intro hmj
      rw [hu j hmj] at hj
      exact isMain_ne_zero hm hj.symm
    have hsub := hk.sub hocc hnotMain
    have hjn : j ≠ n := by
      rintro rfl
      exact hnotMain (hn ▸ hm)
    have hreg := hclear j (by simpa [DeviceInfo.clear,hjn] using hsub)
    obtain ⟨_,k,hk'⟩ := hreg
    simp only [DeviceInfo.clear,Function.update_of_ne hjn,hj] at hk'
    by_cases hkn : k = n
    · rw [hkn,Function.update_self] at hk'
      exact isMain_ne_zero hm hk'.symm
    · rw [Function.update_of_ne hkn] at hk'
      exact hkn (h.keyed.distinct k n (by rw [hk']; exact isMain_ne_zero hm) (by rw [hk',hn]))
  · intro hnone j hj
    by_cases hjn : j = n
    · simp [DeviceInfo.clear,hjn,isSlave,isDoor] at hj
    · simp only [DeviceInfo.clear,Function.update_of_ne hjn] at hj ⊢
      obtain ⟨hm,k,hk'⟩ := ho j hj
      refine ⟨hm,k,?_⟩
      have hkn : k ≠ n := by
        rintro rfl
        exact hnone (by rw [← hn,hk']; exact hm) j (by rw [← hn,hk'])
      rw [Function.update_of_ne hkn,hk']

end Table

theorem delDevice_noOrphans_iff {g : Gateway} (h : RegistryInv g) (ho : NoOrphans g.globalDevice)
    (id : UInt32) : NoOrphans (delDevice id g).2.globalDevice ↔ NoneBound g.globalDevice id := by
  cases hs : findSlot g.globalDevice id with
  | some n =>
    rw [delDevice_table hs]
    exact noOrphans_clear_iff h.inv h.kinds h.unbound ho (findSlot_sound hs).2.2
  | none =>
    rw [delDevice_none hs]
    refine iff_of_true ho (h.inv.noneBound_iff.mpr fun hm n hn => ?_)
    have hne := isMain_ne_zero hm
    have hocc := h.inv.bound_occupied hne (.inl hn)
    have hnotMain : ¬ isMain (g.globalDevice.id n) = true := by
      intro hmn
      rw [h.unbound n hmn] at hn
      exact hne hn.symm
    obtain ⟨_,hreg⟩ := h.inv.noOrphans_iff.mp ho n (h.kinds.sub hocc hnotMain)
    rw [hn,← h.inv.valid_iff hne,findSlot_eq_none.mp hs] at hreg
    cases hreg

theorem delMainBind_noOrphans {g : Gateway} (h : RegistryInv g) (ho : NoOrphans g.globalDevice)
    {a : UInt32} (ha : a ≠ 0) : NoOrphans (delMainBind a g).2.globalDevice := by
  have hmask := delMainBind_masked h.inv ha
  have ho := h.inv.noOrphans_iff.mp ho
  refine (delMainBind_inv h.inv).noOrphans_iff.mpr fun j hj => ?_
  rw [hmask.id,hmask.bindId] at *
  by_cases hb : g.globalDevice.BoundTo a j
  · simp [hb,isSlave,isDoor] at hj
  · simp only [hb,if_false] at hj ⊢
    obtain ⟨hm,k,hk⟩ := ho j hj
    refine ⟨hm,k,?_⟩
    have hkb : ¬ g.globalDevice.BoundTo a k := by
      intro hkb
      rcases hkb with hbind | hid
      · rw [h.unbound k (by rw [hk]; exact hm)] at hbind
        exact ha hbind.symm
      · exact hb (.inl (hk.symm.trans hid))
    simp only [hkb,if_false,hk]

/-- A new slave or door must be reported by a registered main. -/
theorem add_noOrphans {g : Gateway} (h : RegistryInv g) (ho : NoOrphans g.globalDevice)
    {id b : UInt32} (hb : (isSlave id || isDoor id) = true →
      isMain b = true ∧ ∃ k, g.globalDevice.id k = b) :
    NoOrphans (deviceAdd2FlashWifi id b g).globalDevice := by
  have ho := h.inv.noOrphans_iff.mp ho
  refine (deviceAdd2FlashWifi_inv h.inv).noOrphans_iff.mpr fun j => ?_
  rcases deviceAdd2FlashWifi_columns id b g with ⟨hid,hbind,_⟩ | ⟨n,hz,_,_,hid,hbind,_⟩
  · rw [hid,hbind]
    exact ho j
  · rw [hid,hbind]
    have hkeep : ∀ m, (isMain m = true ∧ ∃ k, g.globalDevice.id k = m) →
        isMain m = true ∧ ∃ k, Function.update g.globalDevice.id n id k = m := by
      rintro m ⟨hm,k,hk⟩
      have hkn : k ≠ n := by
        rintro rfl
        exact isMain_ne_zero hm (hk.symm.trans hz)
      exact ⟨hm,k,by rw [Function.update_of_ne hkn,hk]⟩
    by_cases hj : j = n
    · subst hj
      simp only [Function.update_self]
      intro hsub
      rw [if_neg (sub_not_main hsub)]
      exact hkeep b (hb hsub)
    · simp only [Function.update_of_ne hj]
      exact fun hsub => hkeep _ (ho j hsub)

theorem SameRegistry.noOrphans_iff {g g' : Gateway} (hs : SameRegistry g g') :
    NoOrphans g'.globalDevice ↔ NoOrphans g.globalDevice := by
  simp only [NoOrphans,DeviceInfo.mains,DeviceInfo.Registered,hs.num,hs.id,hs.bindId]

theorem SameRegistry.noneBound_iff {g g' : Gateway} (hs : SameRegistry g g') {id : UInt32} :
    NoneBound g'.globalDevice id ↔ NoneBound g.globalDevice id := by
  simp only [NoneBound,hs.num,hs.bindId]

/-- A main that is deleted and learned again finds a free slot, its own if no other. -/
theorem relearn_columns {g : Gateway} (h : RegistryInv g) {id : UInt32} (hm : isMain id = true)
    {k : Nat} (hs : findSlot g.globalDevice id = some k) :
    ∃ n, Function.update g.globalDevice.id k 0 n = 0 ∧
      (deviceAdd2FlashWifi id 0 (delDevice id g).2).globalDevice.id =
        Function.update (Function.update g.globalDevice.id k 0) n id ∧
      (deviceAdd2FlashWifi id 0 (delDevice id g).2).globalDevice.bindId =
        Function.update (Function.update g.globalDevice.bindId k 0) n 0 := by
  obtain ⟨h1,hk,hidk⟩ := findSlot_sound hs
  have hle := h.inv.num_le
  have hne := isMain_ne_zero hm
  have hinv : (delDevice id g).2.globalDevice.Inv := delDevice_inv h.inv
  have htable := delDevice_table hs
  have hfresh : flashGetKeyValid (delDevice id g).2.globalDevice id = .error := by
    refine (hinv.fresh_iff hne).mpr fun j hj => ?_
    rw [htable,DeviceInfo.clear_id] at hj
    by_cases hjk : j = k
    · rw [hjk,Function.update_self] at hj
      exact hne hj.symm
    · rw [Function.update_of_ne hjk] at hj
      exact hjk (h.inv.keyed.distinct j k (by rw [hj]; exact hne) (by rw [hj,hidk]))
  rcases deviceAdd2FlashWifi_columns id 0 (delDevice id g).2 with ⟨_,_,_,hfull⟩ |
    ⟨n,hz,_,_,hid,hbind,_⟩
  · have hfree : (delDevice id g).2.globalDevice.id k = 0 := by simp [htable]
    exact absurd hfree (hfull (by simp [inRange,hm]) hfresh k h1 (by omega))
  · rw [if_pos hm] at hbind
    rw [htable] at hz hid hbind
    exact ⟨n,hz,hid,hbind⟩

theorem relearn_noOrphans {g : Gateway} (h : RegistryInv g) (ho : NoOrphans g.globalDevice)
    {id : UInt32} (hm : isMain id = true) :
    NoOrphans (deviceAdd2FlashWifi id 0 (delDevice id g).2).globalDevice := by
  have hsub : ¬ (isSlave id || isDoor id) = true := fun hsub => sub_not_main hsub hm
  cases hs : findSlot g.globalDevice id with
  | none =>
    rw [delDevice_none hs]
    exact add_noOrphans h ho fun hs => absurd hs hsub
  | some k =>
    obtain ⟨n,hz,hid,hbind⟩ := relearn_columns h hm hs
    refine (deviceAdd2FlashWifi_inv (delDevice_inv h.inv)).noOrphans_iff.mpr fun j hj => ?_
    rw [hid] at hj ⊢
    rw [hbind]
    have hjn : j ≠ n := by
      rintro rfl
      rw [Function.update_self] at hj
      exact hsub hj
    rw [Function.update_of_ne hjn] at hj ⊢
    have hjk : j ≠ k := by
      rintro rfl
      rw [Function.update_self] at hj
      exact sub_ne_zero hj rfl
    rw [Function.update_of_ne hjk] at hj ⊢
    obtain ⟨hmain,i,hi⟩ := h.inv.noOrphans_iff.mp ho j hj
    refine ⟨hmain,?_⟩
    by_cases hik : i = k
    · exact ⟨n,by rw [Function.update_self,← hi,hik,(findSlot_sound hs).2.2]⟩
    · have hin : i ≠ n := by
        rintro rfl
        rw [Function.update_of_ne hik,hi] at hz
        exact isMain_ne_zero hmain hz
      exact ⟨i,by rw [Function.update_of_ne hin,Function.update_of_ne hik,hi]⟩

theorem deviceLearn_noOrphans {g : Gateway} (h : RegistryInv g) (ho : NoOrphans g.globalDevice)
    (m : Message) (hcmd : m.command = 3) : NoOrphans (deviceLearn m g).globalDevice := by
  rcases deviceLearn_cases g m hcmd with ⟨_,hs⟩ | ⟨hl,heq⟩
  · exact hs.sameRegistry.noOrphans_iff.mpr ho
  · rw [heq]
    exact relearn_noOrphans h ho (isMain_of_int hl.2.2.1)

theorem syncCommand_noOrphans_iff {g : Gateway} (h : RegistryInv g) (ho : NoOrphans g.globalDevice)
    {m : Message} (hfrom : isMain (u32 m.fromId) = true ∧ ∃ k, g.globalDevice.id k = u32 m.fromId) :
    NoOrphans (syncCommand m g).globalDevice ↔
      (m.type = 2 → NoneBound g.globalDevice (u32 m.deviceId)) := by
  have hs := syncRefresh_sameRegistry g
  have hadd : ∀ g', RegistryInv g' → SameRegistry g g' → NoOrphans
      (deviceAdd2FlashWifi (u32 m.deviceId) (u32 m.fromId) g').globalDevice := by
    intro g' hg' hsame
    refine add_noOrphans hg' (hsame.noOrphans_iff.mpr ho) fun _ => ?_
    rw [hsame.id]
    exact hfrom
  unfold syncCommand
  split
  · rename_i ht
    refine iff_of_true ?_ (by simp [ht])
    exact (deviceSeen_quiet g m).sameRegistry.noOrphans_iff.mpr ho
  · rename_i ht
    have hl := (localDelete_onlyEmits g (u32 m.deviceId)).quiet.sameRegistry
    rw [delDevice_noOrphans_iff (h.edits (.same hl)) (hl.noOrphans_iff.mpr ho),hl.noneBound_iff]
    simp [ht]
  · rename_i ht
    refine iff_of_true ?_ (by simp [ht])
    exact (syncOnline_quiet _ m).sameRegistry.noOrphans_iff.mpr (hadd _ (h.edits (.same hs)) hs)
  · rename_i ht
    refine iff_of_true ?_ (by simp [ht])
    exact delMainBind_noOrphans h ho (isMain_ne_zero hfrom.1)
  · rename_i ht
    refine iff_of_true ?_ (by simp [ht])
    exact (syncOffline_quiet _ m).sameRegistry.noOrphans_iff.mpr (hadd _ (h.edits (.same hs)) hs)
  · rename_i ht
    refine iff_of_true ?_ (by simp [ht])
    exact (syncOnline_quiet g m).sameRegistry.noOrphans_iff.mpr (hadd g h (.refl g))
  · rename_i h2 _ _ _ _
    exact iff_of_true ho fun ht => absurd ht h2

theorem rf433RxCallback_noOrphans_iff {g : Gateway} (h : RegistryInv g)
    (ho : NoOrphans g.globalDevice) (junk : Message) (rssi : Int) (buffer : List UInt8) (len : Nat)
    (hd : FromMain g (.radio junk rssi buffer len)) :
    NoOrphans (rf433RxCallback junk rssi buffer len g).globalDevice ↔
      SparesBound g (.radio junk rssi buffer len) := by
  have hother : charAt buffer 1 ≠ 'A' → SparesBound g (.radio junk rssi buffer len) :=
    fun hroute hacc => absurd hacc.1 hroute
  rcases rf433RxCallback_cases g junk rssi buffer len with ⟨hno,heq⟩ | ⟨hacc,hc⟩ |
    ⟨hacc,g1,hc,heq⟩ | ⟨hacc,g1,hc,heq⟩ | ⟨hacc,g1,hc,heq⟩
  · rw [heq]
    exact iff_of_true ho fun hacc => absurd (.inr (.inl hacc)) hno
  · refine iff_of_true (hc.sameRegistry.noOrphans_iff.mpr ?_) (hother (by rw [hacc.1]; decide))
    split
    · rename_i hcmd
      exact deviceLearn_noOrphans h ho _ hcmd
    · exact ho
  · have hs := hc.sameRegistry
    have hm := hd hacc
    have hreg := (h.inv.valid_iff (isMain_ne_zero hm)).mp hacc.2.2.2
    have hiff := syncCommand_noOrphans_iff (h.edits (.same hs)) (hs.noOrphans_iff.mpr ho)
      ⟨hm,by rw [hs.id]; exact hreg⟩
    rw [hs.noneBound_iff] at hiff
    simp only [heq,hiff,SparesBound,hacc,true_imp_iff]
  · rw [heq]
    exact iff_of_true ((hc.sameRegistry.trans
      (warningCommand_quiet g1 _).sameRegistry).noOrphans_iff.mpr ho)
      (hother (by rw [hacc.1]; decide))
  · rw [heq]
    exact iff_of_true ((hc.sameRegistry.trans
      (controlCommand_sameRegistry g1 _)).noOrphans_iff.mpr ho) (hother (by rw [hacc.1]; decide))

theorem subdeviceDelete_noOrphans_iff {g : Gateway} (h : RegistryInv g)
    (ho : NoOrphans g.globalDevice) (subId : Text) :
    NoOrphans (subdeviceDelete subId g).globalDevice ↔
      NoneBound g.globalDevice (u32 (atol subId)) := by
  have hq := (gatewayDataEnqueue_quiet g (getBindId g.globalDevice (u32 (atol subId)))
    (u32 (atol subId)) 0 6 0).sameRegistry
  have hdel := delDevice_noOrphans_iff (h.edits (.same hq)) (hq.noOrphans_iff.mpr ho)
    (u32 (atol subId))
  rw [hq.noneBound_iff] at hdel
  rw [← hdel]
  unfold subdeviceDelete remoteDelete
  dsimp only
  split
  · exact ((reportValue_onlyEmits _ _ _ _).trans (.emit _ _)).quiet.sameRegistry.noOrphans_iff
  · exact (OnlyEmits.emit _ _).quiet.sameRegistry.noOrphans_iff

theorem syncThread_noOrphans {g : Gateway} (h : RegistryInv g) (ho : NoOrphans g.globalDevice) :
    NoOrphans (syncThread g).globalDevice := by
  unfold syncThread
  split
  · split <;> exact ho
  · refine (syncSettle_sameRegistry g).noOrphans_iff.mpr ?_
    split
    · exact ho
    · rename_i hne
      have hv := (h.inv.valid_iff hne).mpr ⟨_,rfl⟩
      have hsame : SameRegistry g (deviceAdd2FlashWifi (g.globalDevice.id g.sync.counter) 0 g) := by
        rw [deviceAdd2FlashWifi_eq]
        split
        · rw [registerDevice,hv,if_neg (by simp)]
          exact (announceDevice_quiet _ _ g).sameRegistry
        · exact .refl g
      exact hsame.noOrphans_iff.mpr ho
  · exact (syncWait_sameRegistry g).noOrphans_iff.mpr ho

theorem step_noOrphans_iff (g : Gateway) (e : Event) (h : RegistryInv g)
    (ho : NoOrphans g.globalDevice) (hd : FromMain g e) :
    NoOrphans (step g e).globalDevice ↔ SparesBound g e := by
  cases e with
  | radio junk rssi buffer len => exact rf433RxCallback_noOrphans_iff h ho junk rssi buffer len hd
  | subdeviceDelete subId => exact subdeviceDelete_noOrphans_iff h ho subId
  | subdevList mallocOk packet =>
    refine iff_of_true ?_ trivial
    exact (SameRegistry.of_table (localSubdevList_table g mallocOk packet)).noOrphans_iff.mpr ho
  | controlState value subId =>
    refine iff_of_true ?_ trivial
    exact (dpDownloadControlStateHandle_quiet g value subId).sameRegistry.noOrphans_iff.mpr ho
  | syncThread => exact iff_of_true (syncThread_noOrphans h ho) trivial
  | syncTimeout =>
    refine iff_of_true ?_ trivial
    exact (SameRegistry.of_table (syncTimeout_table g)).noOrphans_iff.mpr ho
  | radioDequeue => exact iff_of_true ho trivial

/-- In a run from the empty table whose sync frames come from mains no slave or door is ever
left without its main exactly when no main is deleted alone while a device is bound to it. -/
theorem no_orphans_iff (selfId : UInt32) (es : List Event)
    (hd : Along step FromMain (powerOn selfId []) es) :
    AllCuts step (fun g => NoOrphans g.globalDevice) (powerOn selfId []) es ↔
      Along step SparesBound (powerOn selfId []) es := by
  have hempty : NoOrphans (powerOn selfId []).globalDevice := by
    intro n h1 hn
    have hnum : (powerOn selfId []).globalDevice.num = 0 := rfl
    omega
  exact allCuts_iff_along_within (fun g e hg _ => hg.edits (step_edits g e)) step_noOrphans_iff
    (powerOn_registryInv selfId) hempty hd

def slaveDeletedRun : List Event :=
  [learnMain '1',radioText slaveOnlineText,
    .subdeviceDelete ['2','0','0','0','0','0','0','1']]

theorem slaveDeletedRun_fromMain : Along step FromMain (powerOn 40000000 []) slaveDeletedRun :=
  ⟨fun hacc => absurd hacc.1 (by decide),fun _ => by decide,trivial,trivial⟩

theorem no_orphans_slave_deleted :
    AllCuts step (fun g => NoOrphans g.globalDevice) (powerOn 40000000 []) slaveDeletedRun :=
  (no_orphans_iff 40000000 slaveDeletedRun slaveDeletedRun_fromMain).mpr
    ⟨fun hacc => absurd hacc.1 (by decide),fun _ ht => absurd ht (by decide),
      fun hm => absurd hm (by decide),trivial⟩

/-- The cloud deletes the main of a registered slave. -/
def orphanRun : List Event :=
  [learnMain '1',radioText slaveOnlineText,
    .subdeviceDelete ['1','0','0','0','0','0','0','1']]

theorem orphanRun_fromMain : Along step FromMain (powerOn 40000000 []) orphanRun :=
  ⟨fun hacc => absurd hacc.1 (by decide),fun _ => by decide,trivial,trivial⟩

theorem no_orphans_counterexample :
    ¬ ∀ (selfId : UInt32) (es : List Event), Along step FromMain (powerOn selfId []) es →
      AllCuts step (fun g => NoOrphans g.globalDevice) (powerOn selfId []) es := by
  intro hall
  have ho := hall 40000000 orphanRun orphanRun_fromMain orphanRun (List.prefix_refl _)
  have hinv : (run (powerOn 40000000 []) orphanRun).globalDevice.Inv :=
    (reachable_wellKept ⟨40000000,orphanRun,rfl⟩).inv
  obtain ⟨_,k,hk⟩ := hinv.noOrphans_iff.mp ho 2 (by decide +kernel)
  have hbind : (run (powerOn 40000000 []) orphanRun).globalDevice.bindId 2 = 10000001 := by
    decide +kernel
  rw [hbind] at hk
  have hb := hinv.keyed.bounded k (by rw [hk]; decide)
  have hnum : (run (powerOn 40000000 []) orphanRun).globalDevice.num = 2 := by decide +kernel
  have hcases : k = 1 ∨ k = 2 := by omega
  rcases hcases with rfl | rfl
  · exact absurd hk (by decide +kernel)
  · exact absurd hk (by decide +kernel)

end GatewayF411
