import GatewayF411.Lib.SlotMap
import GatewayF411.Frame

/-!
The invariant of the device table and what each operation of `flashwork.c` does
to its columns, so that later proofs never unfold the operations.
-/

set_option autoImplicit false

namespace GatewayF411
open CText SlotScan SlotMap

/-- Ids stand in one slot each, below the mark `Num`, and a free slot is bound to nothing. -/
structure DeviceInfo.Inv (d : DeviceInfo) : Prop where
  num_le : d.num ≤ 49
  keyed : Keyed 0 d.num d.id
  freeBind : ∀ n, d.id n = 0 → d.bindId n = 0

theorem DeviceInfo.inv_zero : DeviceInfo.zero.Inv :=
  ⟨Nat.zero_le _,keyed_free 0,fun _ _ => rfl⟩

theorem DeviceInfo.Inv.congr {d d' : DeviceInfo} (h : d.Inv) (hnum : d'.num = d.num)
    (hid : d'.id = d.id) (hbind : d'.bindId = d.bindId) : d'.Inv :=
  ⟨hnum ▸ h.num_le,by rw [hnum,hid]; exact h.keyed,by rw [hid,hbind]; exact h.freeBind⟩

theorem Quiet.inv {g g' : Gateway} (hq : Quiet g g') (h : g.globalDevice.Inv) :
    g'.globalDevice.Inv := h.congr hq.num hq.id hq.bindId

section Lookup
variable {d : DeviceInfo} (h : d.Inv)
include h

theorem DeviceInfo.Inv.findSlot_id {n : Nat} (hn : d.id n ≠ 0) : findSlot d (d.id n) = some n :=
  h.keyed.scanDown_eq_some hn

theorem DeviceInfo.Inv.valid_iff {id : UInt32} (hid : id ≠ 0) :
    flashGetKeyValid d id = .eok ↔ ∃ n, d.id n = id := by
  rw [flashGetKeyValid_eok]
  constructor
  · rintro ⟨n,_,_,hn⟩
    exact ⟨n,hn⟩
  · rintro ⟨n,rfl⟩
    have hb := h.keyed.bounded n hid
    exact ⟨n,hb.1,hb.2,rfl⟩

theorem DeviceInfo.Inv.fresh_iff {id : UInt32} (hid : id ≠ 0) :
    flashGetKeyValid d id = .error ↔ ∀ n, d.id n ≠ id := by
  have hv := h.valid_iff hid
  cases hr : flashGetKeyValid d id with
  | eok =>
    obtain ⟨n,hn⟩ := hv.mp hr
    simp only [reduceCtorEq,false_iff]
    intro hall
    exact hall n hn
  | error =>
    simp only [hr,reduceCtorEq,false_iff,not_exists] at hv
    simpa using hv

theorem DeviceInfo.Inv.registered_iff {id : UInt32} :
    d.Registered id ↔ id ≠ 0 ∧ ∃ n, d.id n = id := by
  refine and_congr_right fun hid => ?_
  rw [← h.valid_iff hid,flashGetKeyValid_eok]

theorem DeviceInfo.Inv.bound_occupied {n : Nat} {m : UInt32} (hm : m ≠ 0)
    (hn : d.bindId n = m ∨ d.id n = m) : d.id n ≠ 0 := by
  intro hz
  rcases hn with hb | hid
  · exact hm (hb.symm.trans (h.freeBind n hz))
  · exact hm (hid.symm.trans hz)

end Lookup

/-- Occupying slot `n` raises `Num`, in the table and in the environment, only if it is higher. -/
def growNum (n : Nat) (g : Gateway) : Gateway :=
  { g with
    globalDevice := { g.globalDevice with num := max g.globalDevice.num n }
    env := if g.globalDevice.num < n then flashLearnNumsChange (UInt32.ofNat n) g.env else g.env }

theorem getLearnNumsValid_cases (g : Gateway) :
    (getLearnNumsValid g = (0,g) ∧ ∀ n, 1 ≤ n → n ≤ 49 → g.globalDevice.id n ≠ 0) ∨
    ∃ n, 1 ≤ n ∧ n ≤ 49 ∧ g.globalDevice.id n = 0 ∧
      (∀ j, 1 ≤ j → j < n → g.globalDevice.id j ≠ 0) ∧ getLearnNumsValid g = (n,growNum n g) := by
  unfold getLearnNumsValid
  cases hs : scanUp (fun n => g.globalDevice.id n == 0) (maxSupport-1) 1 with
  | none =>
    refine .inl ⟨rfl,fun n h1 hn => ?_⟩
    have hz := scanUp_eq_none.mp hs n h1 (by simp only [maxSupport]; omega)
    simpa using hz
  | some n =>
    have hn := scanUp_sound hs
    simp only [maxSupport,beq_iff_eq,beq_eq_false_iff_ne] at hn
    refine .inr ⟨n,hn.1,by omega,hn.2.2.1,hn.2.2.2,?_⟩
    by_cases hlt : g.globalDevice.num < n
    · simp [growNum,hlt,Nat.max_eq_right (Nat.le_of_lt hlt)]
    · simp [growNum,hlt,Nat.max_eq_left (Nat.le_of_not_lt hlt)]

/-- An add either finds the 49 slots full and changes nothing, or occupies the first free one. -/
theorem addFlash_cases (id b : UInt32) (g : Gateway) :
    (addFlash id b g = (.error,g) ∧ ∀ n, 1 ≤ n → n ≤ 49 → g.globalDevice.id n ≠ 0) ∨
    ∃ n, 1 ≤ n ∧ n ≤ 49 ∧ g.globalDevice.id n = 0 ∧
      addFlash id b g = (.eok,placeDevice n id b (growNum n g)) := by
  rcases getLearnNumsValid_cases g with ⟨hr,hfull⟩ | ⟨n,h1,hn,hz,_,hr⟩
  · exact .inl ⟨by simp [addFlash,hr],hfull⟩
  · have hne : n ≠ 0 := by omega
    exact .inr ⟨n,h1,hn,hz,by simp [addFlash,hr,hne]⟩

theorem addMainNums_table (g : Gateway) :
    (addMainNums g).2.globalDevice = { g.globalDevice with
      mainNum := if g.globalDevice.mainNum < 3 then g.globalDevice.mainNum+1
        else g.globalDevice.mainNum } := by
  unfold addMainNums mainSupport
  by_cases h : g.globalDevice.mainNum < 3 <;> simp [h,setMainNums]

theorem delMainNums_table (g : Gateway) :
    (delMainNums g).2.globalDevice =
      { g.globalDevice with mainNum := g.globalDevice.mainNum-1 } := by
  unfold delMainNums
  by_cases h : 0 < g.globalDevice.mainNum
  · simp [h,setMainNums]
  · have hz : g.globalDevice.mainNum-1 = g.globalDevice.mainNum := by omega
    rw [hz]
    simp [h]

def DeviceInfo.clear (deviceId : UInt32) (n : Nat) (d : DeviceInfo) : DeviceInfo :=
  { d with
    mainNum := if isMain deviceId then d.mainNum-1 else d.mainNum
    id := Function.update d.id n 0
    bindId := Function.update d.bindId n 0
    uploadFlag := Function.update d.uploadFlag n 0 }

@[simp] theorem DeviceInfo.clear_id (deviceId : UInt32) (n : Nat) (d : DeviceInfo) :
    (d.clear deviceId n).id = Function.update d.id n 0 := rfl

theorem ifDelMainNums_table (deviceId : UInt32) (g : Gateway) :
    (if isMain deviceId then (delMainNums g).2 else g).globalDevice = { g.globalDevice with
      mainNum := if isMain deviceId then g.globalDevice.mainNum-1 else g.globalDevice.mainNum } := by
  by_cases h : isMain deviceId
  · simp [h,delMainNums_table]
  · simp [h]

theorem remoteDeviceDelete_table (id : UInt32) (g : Gateway) :
    (remoteDeviceDelete id g).2.globalDevice = g.globalDevice := by
  unfold remoteDeviceDelete
  split <;> rfl

theorem remoteDeviceDelete_env (id : UInt32) (g : Gateway) :
    (remoteDeviceDelete id g).2.env = g.env := by
  unfold remoteDeviceDelete
  split <;> rfl

theorem delDevice_none {id : UInt32} {g : Gateway} (h : findSlot g.globalDevice id = none) :
    delDevice id g = (.error,g) := by
  simp [delDevice,h]

theorem delDevice_table {id : UInt32} {g : Gateway} {n : Nat}
    (h : findSlot g.globalDevice id = some n) :
    (delDevice id g).2.globalDevice = g.globalDevice.clear id n := by
  simp only [delDevice,h,clearSlot,remoteDeviceDelete_table,ifDelMainNums_table,DeviceInfo.clear]

theorem localDelete_table (id : UInt32) (g : Gateway) :
    (localDelete id g).globalDevice = g.globalDevice := by
  obtain ⟨fs,hfs⟩ := localDelete_onlyEmits g id
  rw [hfs]

theorem localDelete_env (id : UInt32) (g : Gateway) : (localDelete id g).env = g.env := by
  obtain ⟨fs,hfs⟩ := localDelete_onlyEmits g id
  rw [hfs]

theorem delMainBindBody_table {m : UInt32} {n : Nat} {g : Gateway}
    (h : g.globalDevice.bindId n = m ∨ g.globalDevice.id n = m) :
    (delMainBindBody m n g).globalDevice = g.globalDevice.clear m n := by
  simp only [delMainBindBody,h,if_true,clearSlot,localDelete_table,ifDelMainNums_table,
    DeviceInfo.clear]

theorem delMainBindBody_skip {m : UInt32} {n : Nat} {g : Gateway}
    (h : ¬ (g.globalDevice.bindId n = m ∨ g.globalDevice.id n = m)) :
    delMainBindBody m n g = g := by
  simp [delMainBindBody,h]

section Deletion
variable {P : DeviceInfo → Prop} (hclear : ∀ d id n, P d → P (d.clear id n)) {g : Gateway}
include hclear

theorem delDevice_keeps (id : UInt32) (h : P g.globalDevice) :
    P (delDevice id g).2.globalDevice := by
  cases hs : findSlot g.globalDevice id with
  | none =>
    rw [delDevice_none hs]
    exact h
  | some n =>
    rw [delDevice_table hs]
    exact hclear _ id n h

theorem delMainBind_keeps (m : UInt32) (h : P g.globalDevice) :
    P (delMainBind m g).2.globalDevice := by
  refine foldDown_keeps (fun g : Gateway => P g.globalDevice) (fun n g hg => ?_) h
  by_cases hb : g.globalDevice.bindId n = m ∨ g.globalDevice.id n = m
  · rw [delMainBindBody_table hb]
    exact hclear _ m n hg
  · rw [delMainBindBody_skip hb]
    exact hg

end Deletion

section Invariant
variable {d : DeviceInfo} (h : d.Inv)
include h

theorem DeviceInfo.Inv.clear (id : UInt32) (n : Nat) : (d.clear id n).Inv := by
  have hid : Function.update d.id n 0 = fun j => if j = n then 0 else d.id j := by
    funext j
    simp [Function.update_apply]
  refine ⟨h.num_le,?_,?_⟩
  · show Keyed 0 d.num (Function.update d.id n 0)
    rw [hid]
    exact h.keyed.mask (fun j => j = n)
  · intro j hj
    by_cases hjn : j = n
    · simp [DeviceInfo.clear,hjn]
    · simp only [DeviceInfo.clear,Function.update_of_ne hjn] at hj ⊢
      exact h.freeBind j hj

end Invariant

theorem placeDevice_inv {n : Nat} {id b : UInt32} {g : Gateway} (h : g.globalDevice.Inv)
    (h1 : 1 ≤ n) (hn : n ≤ 49) (hid : id ≠ 0) (hfresh : ∀ j, g.globalDevice.id j ≠ id) :
    (placeDevice n id b (growNum n g)).globalDevice.Inv := by
  have hle := h.num_le
  refine ⟨by simp only [placeDevice,growNum]; omega,?_,?_⟩
  · exact h.keyed.insert h1 (Nat.le_max_right _ _) (Nat.le_max_left _ _) hfresh
  · intro j hj
    by_cases hjn : j = n
    · simp [placeDevice,growNum,hjn,hid] at hj
    · simp only [placeDevice,growNum,Function.update_of_ne hjn] at hj ⊢
      exact h.freeBind j hj

theorem addFlash_inv {id b : UInt32} {g : Gateway} (h : g.globalDevice.Inv) (hid : id ≠ 0)
    (hfresh : ∀ j, g.globalDevice.id j ≠ id) : (addFlash id b g).2.globalDevice.Inv := by
  rcases addFlash_cases id b g with ⟨hr,_⟩ | ⟨n,h1,hn,_,hr⟩
  · rw [hr]
    exact h
  · rw [hr]
    exact placeDevice_inv h h1 hn hid hfresh

theorem mainAddFlash_snd (id : UInt32) (g : Gateway) :
    (mainAddFlash id g).2 = if (addFlash id 0 g).1 = .eok then (addMainNums (addFlash id 0 g).2).2
      else (addFlash id 0 g).2 := by
  unfold mainAddFlash
  cases hr : (addFlash id 0 g).1 <;> simp [hr]

theorem mainAddFlash_inv {id : UInt32} {g : Gateway} (h : g.globalDevice.Inv) (hid : id ≠ 0)
    (hfresh : ∀ j, g.globalDevice.id j ≠ id) : (mainAddFlash id g).2.globalDevice.Inv := by
  have ha := addFlash_inv (b := 0) h hid hfresh
  rw [mainAddFlash_snd]
  split
  · rw [addMainNums_table]
    exact ha.congr rfl rfl rfl
  · exact ha

theorem delDevice_inv {id : UInt32} {g : Gateway} (h : g.globalDevice.Inv) :
    (delDevice id g).2.globalDevice.Inv := delDevice_keeps (fun _ id n hd => hd.clear id n) id h

theorem delMainBind_inv {m : UInt32} {g : Gateway} (h : g.globalDevice.Inv) :
    (delMainBind m g).2.globalDevice.Inv :=
  delMainBind_keeps (fun _ id n hd => hd.clear id n) m h

def registerDevice (id fromId : UInt32) (g : Gateway) : Gateway :=
  if flashGetKeyValid g.globalDevice id = .error then
    if isMain id then (mainAddFlash id g).2 else (addFlash id fromId g).2
  else g

/-- Nothing is sent, to the cloud or by radio, and the mirror of the cloud list stays. -/
structure Silent (g g' : Gateway) : Prop where
  cloud : g'.cloud = g.cloud
  remoteDevice : g'.remoteDevice = g.remoteDevice
  queue433 : g'.queue433 = g.queue433

theorem Silent.refl (g : Gateway) : Silent g g := ⟨rfl,rfl,rfl⟩

theorem Silent.trans {g g' g'' : Gateway} (h : Silent g g') (h' : Silent g' g'') :
    Silent g g'' :=
  ⟨h'.cloud.trans h.cloud,h'.remoteDevice.trans h.remoteDevice,h'.queue433.trans h.queue433⟩

theorem addFlash_silent (id b : UInt32) (g : Gateway) : Silent g (addFlash id b g).2 := by
  rcases addFlash_cases id b g with ⟨ha,_⟩ | ⟨n,_,_,_,ha⟩
  · rw [ha]
    exact .refl g
  · rw [ha]
    exact ⟨rfl,rfl,rfl⟩

theorem addMainNums_silent (g : Gateway) : Silent g (addMainNums g).2 := by
  unfold addMainNums
  dsimp only
  split <;> exact ⟨rfl,rfl,rfl⟩

theorem flashSetUploadFlag_silent (id : UInt32) (v : UInt8) (g : Gateway) :
    Silent g (flashSetUploadFlag id v g).2 := by
  unfold flashSetUploadFlag
  split
  · exact ⟨rfl,rfl,rfl⟩
  · exact .refl g

theorem registerDevice_silent (id b : UInt32) (g : Gateway) :
    Silent g (registerDevice id b g) := by
  unfold registerDevice
  split
  · split
    · rw [mainAddFlash_snd]
      split
      · exact (addFlash_silent id 0 g).trans (addMainNums_silent _)
      · exact addFlash_silent id 0 g
    · exact addFlash_silent id b g
  · exact .refl g

/-- Its second half: an id that the cloud list does not hold is announced. -/
def announceDevice (pid : Text) (id : UInt32) (g : Gateway) : Gateway :=
  if remoteGetKeyValid g.remoteDevice id = .error then
    addWiFi pid id (flashSetUploadFlag id 0 g).2
  else g

def devicePid (id : UInt32) : Text :=
  if isMain id then mainPid else if isSlave id then slavePid else doorPid

def inRange (id : UInt32) : Bool := isMain id || isSlave id || isDoor id

theorem not_inRange_zero : inRange 0 = false := by decide

theorem isMain_ne_zero {id : UInt32} (h : isMain id = true) : id ≠ 0 := by
  rintro rfl
  simp [isMain] at h

theorem inRange_ne_zero {id : UInt32} (h : inRange id = true) : id ≠ 0 := by
  rintro rfl
  simp [not_inRange_zero] at h

theorem isMain_disjoint {id : UInt32} (h : isMain id = true) :
    isSlave id = false ∧ isDoor id = false := by
  simp only [isMain,isSlave,isDoor,Bool.and_eq_true,decide_eq_true_eq,UInt32.le_iff_toNat_le,
    UInt32.lt_iff_toNat_lt,Bool.and_eq_false_iff,decide_eq_false_iff_not] at h ⊢
  simp only [UInt32.reduceToNat] at h ⊢
  omega

theorem isMain_of_int {x : Int} (h : 10000000 ≤ x ∧ x < 20000000) : isMain (u32 x) = true := by
  have hn : (u32 x).toNat = x.toNat := by
    rw [u32,UInt32.ofInt,UInt32.toNat_ofNat']
    omega
  simp only [isMain,Bool.and_eq_true,decide_eq_true_eq,UInt32.le_iff_toNat_le,
    UInt32.lt_iff_toNat_lt,hn,UInt32.reduceToNat]
  omega

theorem deviceAdd2FlashWifi_eq (id fromId : UInt32) (g : Gateway) :
    deviceAdd2FlashWifi id fromId g = if inRange id then
      announceDevice (devicePid id) id (registerDevice id fromId g) else g := by
  by_cases hm : isMain id = true
  · have hd := isMain_disjoint hm
    simp [deviceAdd2FlashWifi,inRange,hm,hd,addDeviceCase,announceDevice,registerDevice,devicePid,
      mainAddWiFi]
  · by_cases hs : isSlave id = true
    · simp [deviceAdd2FlashWifi,inRange,hm,hs,addDeviceCase,announceDevice,registerDevice,
        devicePid,slaveAddWiFi,slaveAddFlash]
    · by_cases hd : isDoor id = true
      · simp [deviceAdd2FlashWifi,inRange,hm,hs,hd,addDeviceCase,announceDevice,registerDevice,
          devicePid,doorAddWiFi,doorAddFlash]
      · simp [deviceAdd2FlashWifi,inRange,hm,hs,hd]

theorem announceDevice_quiet (pid : Text) (id : UInt32) (g : Gateway) :
    Quiet g (announceDevice pid id g) :=
  .iteLeft _ ((flashSetUploadFlag_quiet g id 0).trans (addWiFi_onlyEmits _ _ _).quiet)

theorem registerDevice_inv {id fromId : UInt32} {g : Gateway} (h : g.globalDevice.Inv)
    (hid : id ≠ 0) : (registerDevice id fromId g).globalDevice.Inv := by
  unfold registerDevice
  split
  · rename_i hnew
    have hfresh := (h.fresh_iff hid).mp hnew
    split
    · exact mainAddFlash_inv h hid hfresh
    · exact addFlash_inv h hid hfresh
  · exact h

theorem deviceAdd2FlashWifi_inv {id fromId : UInt32} {g : Gateway} (h : g.globalDevice.Inv) :
    (deviceAdd2FlashWifi id fromId g).globalDevice.Inv := by
  rw [deviceAdd2FlashWifi_eq]
  split
  · rename_i hr
    exact (announceDevice_quiet _ _ _).inv (registerDevice_inv h (inRange_ne_zero hr))
  · exact h

theorem announceDevice_heart (pid : Text) (id : UInt32) (g : Gateway) :
    (announceDevice pid id g).globalDevice.heart = g.globalDevice.heart := by
  have hflag : (flashSetUploadFlag id 0 g).2.globalDevice.heart = g.globalDevice.heart := by
    unfold flashSetUploadFlag
    split <;> rfl
  obtain ⟨fs,hfs⟩ := addWiFi_onlyEmits (flashSetUploadFlag id 0 g).2 pid id
  unfold announceDevice
  split
  · rw [hfs]
    exact hflag
  · rfl

theorem registerDevice_new {id : UInt32} (b : UInt32) {g : Gateway}
    (hnew : flashGetKeyValid g.globalDevice id = .error) :
    (registerDevice id b g).globalDevice.id =
      (addFlash id (if isMain id then 0 else b) g).2.globalDevice.id ∧
    (registerDevice id b g).globalDevice.bindId =
      (addFlash id (if isMain id then 0 else b) g).2.globalDevice.bindId ∧
    (registerDevice id b g).globalDevice.heart =
      (addFlash id (if isMain id then 0 else b) g).2.globalDevice.heart := by
  unfold registerDevice
  rw [if_pos hnew]
  by_cases hm : isMain id = true
  · rw [if_pos hm,if_pos hm,mainAddFlash_snd]
    split
    · rw [addMainNums_table]
      exact ⟨rfl,rfl,rfl⟩
    · exact ⟨rfl,rfl,rfl⟩
  · rw [if_neg hm,if_neg hm]
    exact ⟨rfl,rfl,rfl⟩

theorem addFlash_slot (id b : UInt32) (g : Gateway) (n : Nat) :
    (addFlash id b g).2.globalDevice.id n = g.globalDevice.id n ∨
    (g.globalDevice.id n = 0 ∧ (addFlash id b g).2.globalDevice.id n = id) := by
  rcases addFlash_cases id b g with ⟨hr,_⟩ | ⟨k,_,_,hz,hr⟩
  · rw [hr]
    exact .inl rfl
  · rw [hr]
    by_cases hnk : n = k
    · subst hnk
      exact .inr ⟨hz,by simp [placeDevice]⟩
    · exact .inl (by simp [placeDevice,growNum,hnk])

theorem registerDevice_slot (id b : UInt32) (g : Gateway) (n : Nat) :
    (registerDevice id b g).globalDevice.id n = g.globalDevice.id n ∨
    (g.globalDevice.id n = 0 ∧ (registerDevice id b g).globalDevice.id n = id) := by
  unfold registerDevice
  split
  · split
    · rw [mainAddFlash_snd]
      split
      · rw [addMainNums_table]
        exact addFlash_slot id 0 g n
      · exact addFlash_slot id 0 g n
    · exact addFlash_slot id b g n
  · exact .inl rfl

theorem deviceAdd2FlashWifi_slot (id b : UInt32) (g : Gateway) (n : Nat) :
    (deviceAdd2FlashWifi id b g).globalDevice.id n = g.globalDevice.id n ∨
    (g.globalDevice.id n = 0 ∧ (deviceAdd2FlashWifi id b g).globalDevice.id n = id) := by
  rw [deviceAdd2FlashWifi_eq]
  split
  · rw [(announceDevice_quiet _ _ _).id]
    exact registerDevice_slot id b g n
  · exact .inl rfl

/-- What a registration does to the columns: nothing, because the id is of no known kind, is
known already or finds the table full; or it takes a free slot and is online there. -/
theorem deviceAdd2FlashWifi_columns (id b : UInt32) (g : Gateway) :
    ((deviceAdd2FlashWifi id b g).globalDevice.id = g.globalDevice.id ∧
      (deviceAdd2FlashWifi id b g).globalDevice.bindId = g.globalDevice.bindId ∧
      (deviceAdd2FlashWifi id b g).globalDevice.heart = g.globalDevice.heart ∧
      (inRange id = true → flashGetKeyValid g.globalDevice id = .error →
        ∀ n, 1 ≤ n → n ≤ 49 → g.globalDevice.id n ≠ 0)) ∨
    ∃ n, g.globalDevice.id n = 0 ∧ inRange id = true ∧
      flashGetKeyValid g.globalDevice id = .error ∧
      (deviceAdd2FlashWifi id b g).globalDevice.id = Function.update g.globalDevice.id n id ∧
      (deviceAdd2FlashWifi id b g).globalDevice.bindId =
        Function.update g.globalDevice.bindId n (if isMain id then 0 else b) ∧
      (deviceAdd2FlashWifi id b g).globalDevice.heart =
        Function.update g.globalDevice.heart n 1 := by
  rw [deviceAdd2FlashWifi_eq]
  by_cases hr : inRange id = true
  · have hq := announceDevice_quiet (devicePid id) id (registerDevice id b g)
    rw [if_pos hr,hq.id,hq.bindId,announceDevice_heart]
    by_cases hnew : flashGetKeyValid g.globalDevice id = .error
    · have hadd := registerDevice_new b hnew
      rw [hadd.1,hadd.2.1,hadd.2.2]
      rcases addFlash_cases id (if isMain id then 0 else b) g with ⟨hres,hfull⟩ | ⟨n,_,_,hz,hres⟩
      · rw [hres]
        exact .inl ⟨rfl,rfl,rfl,fun _ _ => hfull⟩
      · rw [hres]
        exact .inr ⟨n,hz,hr,hnew,rfl,rfl,rfl⟩
    · rw [registerDevice,if_neg hnew]
      exact .inl ⟨rfl,rfl,rfl,fun _ herr => absurd herr hnew⟩
  · rw [if_neg hr]
    exact .inl ⟨rfl,rfl,rfl,fun hr' => absurd hr' hr⟩

end GatewayF411
