import GatewayF411.Lib.Runs
import GatewayF411.Storage

/-!
Memory and flash agree across a reboot. The table is keyed by slot, the stored
attributes by id, so a key of a deleted device can resurface with its id.
-/

set_option autoImplicit false

namespace GatewayF411
open CText SlotScan SlotMap Runs

/-- Loading the table again gives back what is in memory. -/
structure RebootKeeps (g : Gateway) : Prop where
  num : (loadDevice2Memory g.env).num = g.globalDevice.num
  mainNum : (loadDevice2Memory g.env).mainNum = g.globalDevice.mainNum
  id : ∀ n, 1 ≤ n → n ≤ g.globalDevice.num →
    (loadDevice2Memory g.env).id n = g.globalDevice.id n
  bindId : ∀ n, 1 ≤ n → n ≤ g.globalDevice.num → g.globalDevice.id n ≠ 0 →
    (loadDevice2Memory g.env).bindId n = g.globalDevice.bindId n
  heart : ∀ n, 1 ≤ n → n ≤ g.globalDevice.num → g.globalDevice.id n ≠ 0 →
    (loadDevice2Memory g.env).heart n = g.globalDevice.heart n
  uploadFlag : ∀ n, 1 ≤ n → n ≤ g.globalDevice.num → g.globalDevice.id n ≠ 0 →
    (loadDevice2Memory g.env).uploadFlag n = g.globalDevice.uploadFlag n

/-- Every column of the table is stored, except that the bind key of the id `sb` and
the upload key of the id `su` may be stale; 0 stands for no id. -/
structure Persisted (g : Gateway) (sb su : UInt32) : Prop where
  inv : g.globalDevice.Inv
  freeUpload : ∀ n, g.globalDevice.id n = 0 → g.globalDevice.uploadFlag n = 0
  num : storedNum g.env = g.globalDevice.num
  mainNum : storedMainNum g.env = g.globalDevice.mainNum
  ids : storedId g.env = g.globalDevice.id
  bind : ∀ n, g.globalDevice.id n ≠ 0 → g.globalDevice.id n ≠ sb →
    flashGetKeyValue .bind (g.globalDevice.id n) g.env = g.globalDevice.bindId n
  heart : ∀ n, g.globalDevice.id n ≠ 0 →
    (flashGetKeyValue .heart (g.globalDevice.id n) g.env).toUInt8 = g.globalDevice.heart n
  upload : ∀ n, g.globalDevice.id n ≠ 0 → g.globalDevice.id n ≠ su →
    (flashGetKeyValue .upload (g.globalDevice.id n) g.env).toUInt8 = g.globalDevice.uploadFlag n

theorem Persisted.envOk {g : Gateway} {sb su : UInt32} (h : Persisted g sb su) : EnvOk g.env :=
  ⟨by rw [h.num]; exact h.inv.num_le,by rw [h.num,h.ids]; exact h.inv.keyed⟩

theorem Persisted.rebootKeeps {g : Gateway} (h : Persisted g 0 0) : RebootKeeps g := by
  have hid : (loadDevice2Memory g.env).id = g.globalDevice.id := by
    rw [h.envOk.load_id,h.ids]
  have hslot : ∀ n, 1 ≤ n → n ≤ g.globalDevice.num → LoadedSlot g.env (loadDevice2Memory g.env) n :=
    fun n h1 hn => loadDevice2Memory_slot g.env ⟨h1,by rw [h.num]; exact hn⟩
  refine ⟨?_,?_,fun n _ _ => by rw [hid],fun n h1 hn hne => ?_,fun n h1 hn hne => ?_,
    fun n h1 hn hne => ?_⟩
  · rw [loadDevice2Memory_num,h.num]
  · rw [loadDevice2Memory_mainNum,h.mainNum]
  · rw [(hslot n h1 hn).bindId,hid,if_neg hne,h.bind n hne hne]
  · rw [(hslot n h1 hn).heart,hid,if_neg hne,h.heart n hne]
  · rw [(hslot n h1 hn).uploadFlag,hid,if_neg hne,h.upload n hne hne]

theorem Persisted.congr {g g' : Gateway} {sb su : UInt32} (h : Persisted g sb su)
    (htable : g'.globalDevice = g.globalDevice) (henv : g'.env = g.env) : Persisted g' sb su := by
  obtain ⟨hinv,hfree,hnum,hmain,hids,hbind,hheart,hupload⟩ := h
  constructor <;> rw [htable] <;> (try rw [henv]) <;> assumption

theorem storedMainNum_flashMainNumsChange {n : Nat} (hn : n < 256) (e : EnvLog) :
    storedMainNum (flashMainNumsChange (UInt32.ofNat n) e) = n := by
  simp only [storedMainNum,flashGetMainNums_flashMainNumsChange,UInt32.toNat_ofNat']
  omega

theorem storedMainNum_lt (e : EnvLog) : storedMainNum e < 256 := Nat.mod_lt _ (by decide)

theorem setMainNums_persisted {g : Gateway} {sb su : UInt32} (h : Persisted g sb su) {n : Nat}
    (hn : n < 256) : Persisted (setMainNums n g) sb su := by
  refine ⟨h.inv.congr rfl rfl rfl,h.freeUpload,?_,?_,?_,?_,?_,?_⟩
  · simpa [setMainNums] using h.num
  · exact storedMainNum_flashMainNumsChange hn g.env
  · simpa [setMainNums] using h.ids
  · simpa [setMainNums] using h.bind
  · simpa [setMainNums] using h.heart
  · simpa [setMainNums] using h.upload

theorem addMainNums_persisted {g : Gateway} {sb su : UInt32} (h : Persisted g sb su) :
    Persisted (addMainNums g).2 sb su := by
  unfold addMainNums mainSupport
  dsimp only
  split
  · exact setMainNums_persisted h (by omega)
  · exact h

theorem ifDelMainNums_persisted {g : Gateway} {sb su : UInt32} (h : Persisted g sb su)
    (id : UInt32) : Persisted (if isMain id then (delMainNums g).2 else g) sb su := by
  have hlt := storedMainNum_lt g.env
  rw [h.mainNum] at hlt
  unfold delMainNums
  dsimp only
  split
  · split
    · exact setMainNums_persisted h (by omega)
    · exact h
  · exact h

theorem clearSlot_persisted {g : Gateway} {sb su : UInt32} (h : Persisted g sb su) {n : Nat}
    (h1 : 1 ≤ n) (hn : n ≤ 49) (key : UInt32)
    (hkey : ∀ j, j ≠ n → g.globalDevice.id j ≠ 0 → g.globalDevice.id j = key →
      g.globalDevice.id j = sb ∧ g.globalDevice.id j = su) :
    Persisted (clearSlot n key g) sb su := by
  have hne : ∀ j, (clearSlot n key g).globalDevice.id j ≠ 0 → j ≠ n := by
    rintro j hj rfl
    simp [clearSlot] at hj
  have hclear : (clearSlot n key g).globalDevice = { g.globalDevice.clear 0 n with
      mainNum := g.globalDevice.mainNum } := rfl
  refine ⟨?_,?_,?_,?_,?_,?_,?_,?_⟩
  · rw [hclear]
    exact (h.inv.clear 0 n).congr rfl rfl rfl
  · intro j hj
    by_cases hjn : j = n
    · simp [clearSlot,hjn]
    · simp only [clearSlot,Function.update_of_ne hjn] at hj ⊢
      exact h.freeUpload j hj
  · simpa [clearSlot,flashUploadFlagChange,flashBindChange,flashIdChange] using h.num
  · simpa [clearSlot,flashUploadFlagChange,flashBindChange,flashIdChange,storedMainNum] using h.mainNum
  · have hids := storedId_flashIdChange g.env h1 hn 0
    simp only [clearSlot,flashUploadFlagChange,flashBindChange]
    rw [storedId_flashChange _ (by decide),storedId_flashChange _ (by decide),hids,h.ids]
  · intro j hj hsb
    have hjn := hne j hj
    simp only [clearSlot,Function.update_of_ne hjn] at hj hsb ⊢
    have hk : ¬ g.globalDevice.id j = key := fun hk => hsb (hkey j hjn hj hk).1
    simpa [flashUploadFlagChange,flashBindChange,flashIdChange,hk] using h.bind j hj hsb
  · intro j hj
    have hjn := hne j hj
    simp only [clearSlot,Function.update_of_ne hjn] at hj ⊢
    simpa [flashUploadFlagChange,flashBindChange,flashIdChange] using h.heart j hj
  · intro j hj hsu
    have hjn := hne j hj
    simp only [clearSlot,Function.update_of_ne hjn] at hj hsu ⊢
    have hk : ¬ g.globalDevice.id j = key := fun hk => hsu (hkey j hjn hj hk).2
    simpa [flashUploadFlagChange,flashBindChange,flashIdChange,hk] using h.upload j hj hsu

theorem remoteDeviceDelete_persisted {g : Gateway} {sb su : UInt32} (h : Persisted g sb su)
    (id : UInt32) : Persisted (remoteDeviceDelete id g).2 sb su := by
  unfold remoteDeviceDelete
  split <;> exact h.congr rfl rfl

theorem delDevice_persisted {g : Gateway} (h : Persisted g 0 0) (id : UInt32) :
    Persisted (delDevice id g).2 0 0 := by
  cases hs : findSlot g.globalDevice id with
  | none =>
    rw [delDevice_none hs]
    exact h
  | some n =>
    obtain ⟨h1,hn,hidn⟩ := findSlot_sound hs
    have hle := h.inv.num_le
    have hp := remoteDeviceDelete_persisted (ifDelMainNums_persisted h id) id
    have hids : (remoteDeviceDelete id (if isMain id then (delMainNums g).2 else g)).2.globalDevice.id
        = g.globalDevice.id := by
      rw [remoteDeviceDelete_table,ifDelMainNums_table]
    have hclear := clearSlot_persisted hp h1 (by omega) id (by
      intro j hj hne hk
      rw [hids] at hne hk
      exact absurd (h.inv.keyed.distinct j n hne (by rw [hk,hidn])) hj)
    simpa [delDevice,hs] using hclear

/-- While all that is bound to `a` is deleted, only the keys of `a` itself can be stale. -/
theorem delMainBindBody_persisted {g : Gateway} {a : UInt32} (ha : a ≠ 0) {n : Nat}
    (h : Persisted g a a ∧ ∀ j, n+1 < j → g.globalDevice.id j ≠ a) :
    Persisted (delMainBindBody a (n+1) g) a a ∧
      ∀ j, n < j → (delMainBindBody a (n+1) g).globalDevice.id j ≠ a := by
  obtain ⟨hp,hdone⟩ := h
  by_cases hb : g.globalDevice.bindId (n+1) = a ∨ g.globalDevice.id (n+1) = a
  · have hbound := hp.inv.keyed.bounded (n+1) (hp.inv.bound_occupied ha hb)
    have hle := hp.inv.num_le
    refine ⟨?_,fun j hj => ?_⟩
    · have hlocal := (ifDelMainNums_persisted hp a).congr
        (localDelete_table ((if isMain a then (delMainNums g).2 else g).globalDevice.id (n+1)) _)
        (localDelete_env _ _)
      have hclear := clearSlot_persisted hlocal hbound.1 (by omega) a (fun j _ _ hk => ⟨hk,hk⟩)
      simpa [delMainBindBody,hb] using hclear
    · rw [delMainBindBody_table hb]
      by_cases hjn : j = n+1
      · simpa [DeviceInfo.clear,hjn] using ha.symm
      · simpa [DeviceInfo.clear,hjn] using hdone j (by omega)
  · rw [delMainBindBody_skip hb]
    refine ⟨hp,fun j hj => ?_⟩
    by_cases hjn : j = n+1
    · rw [hjn]
      exact fun hid => hb (.inr hid)
    · exact hdone j (by omega)

theorem delMainBind_persisted {g : Gateway} (h : Persisted g 0 0) {a : UInt32} (ha : a ≠ 0) :
    Persisted (delMainBind a g).2 0 0 := by
  have hstart : Persisted g a a ∧ ∀ j, g.globalDevice.num < j → g.globalDevice.id j ≠ a := by
    refine ⟨⟨h.inv,h.freeUpload,h.num,h.mainNum,h.ids,fun n hn _ => h.bind n hn hn,h.heart,
      fun n hn _ => h.upload n hn hn⟩,fun j hj hja => ?_⟩
    have hb := h.inv.keyed.bounded j (by rw [hja]; exact ha)
    omega
  have hloop := foldDown_invariant
    (fun n (s : Gateway) => Persisted s a a ∧ ∀ j, n < j → s.globalDevice.id j ≠ a)
    (fun n s hs => delMainBindBody_persisted ha hs) hstart
  obtain ⟨hp,hgone⟩ := hloop
  have hne : ∀ n, (delMainBind a g).2.globalDevice.id n ≠ 0 →
      (delMainBind a g).2.globalDevice.id n ≠ a := by
    intro n hn
    exact hgone n (by have hb := hp.inv.keyed.bounded n hn; omega)
  exact ⟨hp.inv,hp.freeUpload,hp.num,hp.mainNum,hp.ids,fun n hn _ => hp.bind n hn (hne n hn),
    hp.heart,fun n hn _ => hp.upload n hn (hne n hn)⟩

theorem flashSetUploadFlag_persisted {g : Gateway} {id : UInt32} {su : UInt32}
    (h : Persisted g 0 su) (hid : id ≠ 0) (hsu : su = 0 ∨ su = id) (v : UInt8) :
    Persisted (flashSetUploadFlag id v g).2 0 0 := by
  cases hs : findSlot g.globalDevice id with
  | none =>
    have hfresh := (h.inv.fresh_iff hid).mp (findSlot_eq_none.mp hs)
    have hne : ∀ n, g.globalDevice.id n ≠ 0 → g.globalDevice.id n ≠ su := by
      intro n hn
      rcases hsu with rfl | rfl
      · exact hn
      · exact hfresh n
    simp only [flashSetUploadFlag,hs]
    exact ⟨h.inv,h.freeUpload,h.num,h.mainNum,h.ids,h.bind,h.heart,
      fun n hn _ => h.upload n hn (hne n hn)⟩
  | some m =>
    obtain ⟨_,_,hm⟩ := findSlot_sound hs
    simp only [flashSetUploadFlag,hs]
    refine ⟨h.inv.congr rfl rfl rfl,?_,?_,?_,?_,?_,?_,?_⟩
    · intro n hn
      have hnm : n ≠ m := by
        rintro rfl
        exact hid (hm.symm.trans hn)
      simpa [hnm] using h.freeUpload n hn
    · simpa [flashUploadFlagChange] using h.num
    · simpa [flashUploadFlagChange,storedMainNum] using h.mainNum
    · rw [flashUploadFlagChange,storedId_flashChange _ (by decide)]
      exact h.ids
    · simpa [flashUploadFlagChange] using h.bind
    · simpa [flashUploadFlagChange] using h.heart
    · intro n hn _
      by_cases hnm : n = m
      · subst hnm
        simp [flashUploadFlagChange,hm]
      · have hne : ¬ g.globalDevice.id n = id := fun hk =>
          hnm (h.inv.keyed.distinct n m hn (by rw [hk,hm]))
        have hns : g.globalDevice.id n ≠ su := by
          rcases hsu with rfl | rfl
          · exact hn
          · exact hne
        simpa [flashUploadFlagChange,hne,hnm] using h.upload n hn hns

theorem changeHeart_persisted {g : Gateway} (h : Persisted g 0 0) {id : UInt32} {n : Nat}
    (hn : g.globalDevice.id n = id) (v : UInt8) : Persisted (changeHeart n id v g) 0 0 := by
  obtain ⟨fs,hfs⟩ := setSlaveHeart_onlyEmits g id v
  simp only [changeHeart,hfs]
  refine ⟨h.inv.congr rfl rfl rfl,h.freeUpload,?_,?_,?_,?_,?_,?_⟩
  · simpa [flashHeartChange] using h.num
  · simpa [flashHeartChange,storedMainNum] using h.mainNum
  · rw [flashHeartChange,storedId_flashChange _ (by decide)]
    exact h.ids
  · simpa [flashHeartChange] using h.bind
  · intro j hj
    by_cases hjn : j = n
    · subst hjn
      simp [flashHeartChange,hn]
    · have hne : ¬ g.globalDevice.id j = id := fun hk =>
        hjn (h.inv.keyed.distinct j n hj (by rw [hk,hn]))
      simpa [flashHeartChange,hne,hjn] using h.heart j hj
  · simpa [flashHeartChange] using h.upload

theorem flashSetHeart_persisted {g : Gateway} (h : Persisted g 0 0) (id : UInt32) (v : UInt8) :
    Persisted (flashSetHeart id v g).2 0 0 := by
  cases hs : findSlot g.globalDevice id with
  | none =>
    simp only [flashSetHeart,hs]
    exact h
  | some n =>
    have hn := (findSlot_sound hs).2.2
    have hr : Persisted (setHeartRecv n g) 0 0 :=
      ⟨h.inv.congr rfl rfl rfl,h.freeUpload,h.num,h.mainNum,h.ids,h.bind,h.heart,h.upload⟩
    simp only [flashSetHeart,hs]
    split
    · dsimp only
      split
      · exact changeHeart_persisted hr hn 1
      · exact hr
    · dsimp only
      split
      · exact changeHeart_persisted h hn 0
      · exact h

theorem growNum_persisted {g : Gateway} {sb su : UInt32} (h : Persisted g sb su) {n : Nat}
    (hn : n ≤ 49) : Persisted (growNum n g) sb su := by
  have hle := h.inv.num_le
  have hkeyed : Keyed 0 (max g.globalDevice.num n) g.globalDevice.id := by
    refine ⟨fun j hj => ?_,h.inv.keyed.distinct⟩
    have hb := h.inv.keyed.bounded j hj
    exact ⟨hb.1,by omega⟩
  have hinv : (growNum n g).globalDevice.Inv := ⟨by simp only [growNum]; omega,hkeyed,h.inv.freeBind⟩
  by_cases hlt : g.globalDevice.num < n
  · refine ⟨hinv,h.freeUpload,?_,?_,?_,?_,?_,?_⟩
    · simp only [growNum,hlt,if_true,storedNum_flashLearnNumsChange g.env hn]
      omega
    · simpa [growNum,hlt,storedMainNum] using h.mainNum
    · simpa [growNum,hlt] using h.ids
    · simpa [growNum,hlt] using h.bind
    · simpa [growNum,hlt] using h.heart
    · simpa [growNum,hlt] using h.upload
  · refine ⟨hinv,h.freeUpload,?_,?_,?_,?_,?_,?_⟩
    · simp only [growNum,hlt,if_false,h.num]
      omega
    · simpa [growNum,hlt] using h.mainNum
    · simpa [growNum,hlt] using h.ids
    · simpa [growNum,hlt] using h.bind
    · simpa [growNum,hlt] using h.heart
    · simpa [growNum,hlt] using h.upload

/-- A new device leaves the upload key of its id as an earlier device left it. -/
theorem placeDevice_persisted {g : Gateway} (h : Persisted g 0 0) {n : Nat} (h1 : 1 ≤ n)
    (hn : n ≤ 49) {id b : UInt32} (hid : id ≠ 0) (hfree : g.globalDevice.id n = 0)
    (hfresh : ∀ j, g.globalDevice.id j ≠ id) :
    Persisted (placeDevice n id b (growNum n g)) 0 id ∧
    ((flashGetKeyValue .upload id g.env).toUInt8 = 0 →
      Persisted (placeDevice n id b (growNum n g)) 0 0) := by
  have hp := growNum_persisted h hn
  have hupenv : flashGetKeyValue .upload id (growNum n g).env =
      flashGetKeyValue .upload id g.env := by
    by_cases hlt : g.globalDevice.num < n <;> simp [growNum,hlt]
  have hcommon : Persisted (placeDevice n id b (growNum n g)) 0 id := by
    refine ⟨placeDevice_inv h.inv h1 hn hid hfresh,?_,?_,?_,?_,?_,?_,?_⟩
    · intro j hj
      by_cases hjn : j = n
      · simp [placeDevice,hjn,hid] at hj
      · exact hp.freeUpload j (by simpa [placeDevice,hjn] using hj)
    · simpa [placeDevice,flashHeartChange,flashBindChange,flashIdChange] using hp.num
    · simpa [placeDevice,flashHeartChange,flashBindChange,flashIdChange,storedMainNum]
        using hp.mainNum
    · have hids := storedId_flashIdChange (growNum n g).env h1 hn id
      simp only [placeDevice,flashHeartChange,flashBindChange]
      rw [storedId_flashChange _ (by decide),storedId_flashChange _ (by decide),hids,hp.ids]
    · intro j hj _
      by_cases hjn : j = n
      · simp [placeDevice,flashHeartChange,flashBindChange,hjn]
      · have hne : ¬ (growNum n g).globalDevice.id j = id := hfresh j
        simp only [placeDevice,Function.update_of_ne hjn] at hj ⊢
        simpa [flashHeartChange,flashBindChange,flashIdChange,hne] using hp.bind j hj hj
    · intro j hj
      by_cases hjn : j = n
      · simp [placeDevice,flashHeartChange,hjn]
      · have hne : ¬ (growNum n g).globalDevice.id j = id := hfresh j
        simp only [placeDevice,Function.update_of_ne hjn] at hj ⊢
        simpa [flashHeartChange,flashBindChange,flashIdChange,hne] using hp.heart j hj
    · intro j hj hne
      by_cases hjn : j = n
      · simp [placeDevice,hjn] at hne
      · simp only [placeDevice,Function.update_of_ne hjn] at hj ⊢
        simpa [flashHeartChange,flashBindChange,flashIdChange] using hp.upload j hj hj
  refine ⟨hcommon,fun hup => ?_⟩
  refine ⟨hcommon.inv,hcommon.freeUpload,hcommon.num,hcommon.mainNum,hcommon.ids,hcommon.bind,
    hcommon.heart,fun j hj _ => ?_⟩
  by_cases hjn : j = n
  · have hflag : (growNum n g).globalDevice.uploadFlag n = 0 := h.freeUpload n hfree
    simpa [placeDevice,flashHeartChange,flashBindChange,flashIdChange,hjn,hupenv,hflag] using hup
  · refine hcommon.upload j hj ?_
    simpa [placeDevice,growNum,hjn] using hfresh j

/-- The call really registers the id: it is a new device and a slot is free. -/
def Registers (g : Gateway) (id : UInt32) : Prop :=
  inRange id = true ∧ flashGetKeyValid g.globalDevice id = .error ∧
  ∃ n, 1 ≤ n ∧ n ≤ 49 ∧ g.globalDevice.id n = 0

theorem registerDevice_persisted {g : Gateway} (h : Persisted g 0 0) {id b : UInt32}
    (hr : inRange id = true) :
    Persisted (registerDevice id b g) 0 id ∧
    ((Registers g id → (flashGetKeyValue .upload id g.env).toUInt8 = 0) →
      Persisted (registerDevice id b g) 0 0) := by
  have hid := inRange_ne_zero hr
  have hsame : Persisted g 0 id := ⟨h.inv,h.freeUpload,h.num,h.mainNum,h.ids,h.bind,h.heart,
    fun n hn _ => h.upload n hn hn⟩
  by_cases hnew : flashGetKeyValid g.globalDevice id = .error
  · have hfresh := (h.inv.fresh_iff hid).mp hnew
    by_cases hm : isMain id = true
    · simp only [registerDevice,hnew,hm,if_true]
      rw [mainAddFlash_snd]
      rcases addFlash_cases id 0 g with ⟨ha,_⟩ | ⟨n,h1,hn,hz,ha⟩
      · simpa [ha] using ⟨hsame,fun _ => h⟩
      · have hp := placeDevice_persisted (b := 0) h h1 hn hid hz hfresh
        simp only [ha,if_true]
        exact ⟨addMainNums_persisted hp.1,
          fun hup => addMainNums_persisted (hp.2 (hup ⟨hr,hnew,n,h1,hn,hz⟩))⟩
    · simp only [registerDevice,hnew,hm,if_true]
      rcases addFlash_cases id b g with ⟨ha,_⟩ | ⟨n,h1,hn,hz,ha⟩
      · simpa [ha] using ⟨hsame,fun _ => h⟩
      · have hp := placeDevice_persisted (b := b) h h1 hn hid hz hfresh
        simp only [ha]
        exact ⟨hp.1,fun hup => hp.2 (hup ⟨hr,hnew,n,h1,hn,hz⟩)⟩
  · simp only [registerDevice,hnew,if_false]
    exact ⟨hsame,fun _ => h⟩

/-- The condition on one operation: an id that the cloud list already holds is
registered only if no upload flag of an earlier device is stored under it. -/
def UploadClean (g : Gateway) : StoreOp → Prop
  | .deviceAdd2FlashWifi id _ => Registers g id → remoteGetKeyValid g.remoteDevice id = .eok →
      (flashGetKeyValue .upload id g.env).toUInt8 = 0
  | _ => True

theorem deviceAdd2FlashWifi_persisted {g : Gateway} (h : Persisted g 0 0) {id b : UInt32}
    (hclean : UploadClean g (.deviceAdd2FlashWifi id b)) :
    Persisted (deviceAdd2FlashWifi id b g) 0 0 := by
  rw [deviceAdd2FlashWifi_eq]
  by_cases hr : inRange id = true
  · rw [if_pos hr]
    have hp := registerDevice_persisted (b := b) h hr
    by_cases hremote : remoteGetKeyValid g.remoteDevice id = .error
    · have hset := flashSetUploadFlag_persisted hp.1 (inRange_ne_zero hr) (.inr rfl) 0
      obtain ⟨fs,hfs⟩ := addWiFi_onlyEmits (flashSetUploadFlag id 0 (registerDevice id b g)).2
        (devicePid id) id
      simp only [announceDevice,(registerDevice_silent _ _ _).remoteDevice,hremote,if_true]
      exact hset.congr (by rw [hfs]) (by rw [hfs])
    · have heok : remoteGetKeyValid g.remoteDevice id = .eok := by
        cases hv : remoteGetKeyValid g.remoteDevice id with
        | eok => rfl
        | error => exact absurd hv hremote
      simp only [announceDevice,(registerDevice_silent _ _ _).remoteDevice,heok,reduceCtorEq,if_false]
      exact hp.2 (fun hreg => hclean hreg heok)
  · rw [if_neg hr]
    exact h

theorem storeStep_persisted (g : Gateway) (op : StoreOp) (h : Persisted g 0 0)
    (hop : op.NonZero ∧ UploadClean g op) : Persisted (storeStep g op) 0 0 := by
  cases op with
  | deviceAdd2FlashWifi id b => exact deviceAdd2FlashWifi_persisted h hop.2
  | delDevice id => exact delDevice_persisted h id
  | delMainBind a => exact delMainBind_persisted h hop.1
  | flashSetHeart id v => exact flashSetHeart_persisted h id v
  | flashSetUploadFlag id v => exact flashSetUploadFlag_persisted h hop.1 (.inl rfl) v
  | remoteList remote => exact h.congr rfl rfl

theorem load_persisted {g : Gateway} (henv : EnvOk g.env)
    (hload : g.globalDevice = loadDevice2Memory g.env) : Persisted g 0 0 := by
  have hle := henv.num_le
  have hslot : ∀ n, g.globalDevice.id n ≠ 0 →
      LoadedSlot g.env (loadDevice2Memory g.env) n := by
    intro n hn
    rw [hload] at hn
    have hb := henv.load_inv.keyed.bounded n hn
    exact loadDevice2Memory_slot g.env ⟨hb.1,by rw [← loadDevice2Memory_num]; exact hb.2⟩
  rw [hload] at hslot
  refine ⟨?_,?_,?_,?_,?_,?_,?_,?_⟩ <;> rw [hload]
  · exact henv.load_inv
  · intro n hn
    by_cases hr : 1 ≤ n ∧ n ≤ storedNum g.env
    · simp [(loadDevice2Memory_slot g.env hr).uploadFlag,hn]
    · exact (loadDevice2Memory_unused g.env hr).uploadFlag
  · rw [loadDevice2Memory_num]
  · rw [loadDevice2Memory_mainNum]
  · rw [henv.load_id]
  · intro n hn _
    rw [(hslot n hn).bindId,if_neg hn]
  · intro n hn
    rw [(hslot n hn).heart,if_neg hn]
  · intro n hn _
    rw [(hslot n hn).uploadFlag,if_neg hn]

/-- After every run of completed operations from a table loaded from a sound environment, a reboot
gives the same table again, provided no stale upload flag is picked up on the way. -/
theorem reboot_keeps_table (g : Gateway) (henv : EnvOk g.env)
    (hload : g.globalDevice = loadDevice2Memory g.env) (ops : List StoreOp)
    (hops : Along storeStep (fun g op => op.NonZero ∧ UploadClean g op) g ops) :
    RebootKeeps (ops.foldl storeStep g) := by
  have hp : Persisted (ops.foldl storeStep g) 0 0 :=
    foldl_along (fun g : Gateway => Persisted g 0 0) storeStep_persisted
      (load_persisted henv hload) hops
  exact hp.rebootKeeps

def slaveListed : RemoteInfo := ⟨1,fun n => if n = 1 then 20000001 else 0⟩

/-- A slave is marked as uploaded, deleted with its main and registered again. -/
def staleUploadOps : List StoreOp :=
  [.deviceAdd2FlashWifi 10000001 0,.deviceAdd2FlashWifi 20000001 10000001,
    .flashSetUploadFlag 20000001 1,.remoteList slaveListed,.delMainBind 10000001,
    .deviceAdd2FlashWifi 20000001 10000001]

theorem reboot_keeps_table_run :
    EnvOk (powerOn 40000000 []).env ∧
    Along storeStep (fun g op => op.NonZero ∧ UploadClean g op) (powerOn 40000000 [])
      [.deviceAdd2FlashWifi 10000001 0,.deviceAdd2FlashWifi 20000001 10000001,
        .flashSetUploadFlag 20000001 1,.delDevice 20000001] ∧
    RebootKeeps ([StoreOp.deviceAdd2FlashWifi 10000001 0,.deviceAdd2FlashWifi 20000001 10000001,
      .flashSetUploadFlag 20000001 1,.delDevice 20000001].foldl storeStep (powerOn 40000000 [])) := by
  have hops : Along storeStep (fun g op => op.NonZero ∧ UploadClean g op) (powerOn 40000000 [])
      [.deviceAdd2FlashWifi 10000001 0,.deviceAdd2FlashWifi 20000001 10000001,
        .flashSetUploadFlag 20000001 1,.delDevice 20000001] := by
    refine ⟨⟨?_,fun _ hremote => absurd hremote (by decide)⟩,
      ⟨?_,fun _ hremote => absurd hremote (by decide)⟩,⟨?_,trivial⟩,⟨?_,trivial⟩,trivial⟩ <;>
      simp [StoreOp.NonZero]
  exact ⟨envOk_nil,hops,reboot_keeps_table (powerOn 40000000 []) envOk_nil rfl _ hops⟩

/-- `Del_MainBind` clears the flag under the main's key; the slave's stored flag survives. -/
theorem reboot_counterexample :
    ¬ ∀ g : Gateway, EnvOk g.env → g.globalDevice = loadDevice2Memory g.env →
      ∀ ops : List StoreOp, (∀ op ∈ ops, op.NonZero) → RebootKeeps (ops.foldl storeStep g) := by
  intro h
  have hk := h (powerOn 40000000 []) envOk_nil rfl staleUploadOps (by
    intro op hop
    simp only [staleUploadOps,List.mem_cons,List.not_mem_nil,or_false] at hop
    rcases hop with rfl | rfl | rfl | rfl | rfl | rfl <;> simp [StoreOp.NonZero])
  have hflag := hk.uploadFlag 1 (by decide) (by decide) (by decide)
  revert hflag
  decide

end GatewayF411
