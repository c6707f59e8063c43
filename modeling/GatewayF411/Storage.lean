import GatewayF411.Table

set_option autoImplicit false

namespace GatewayF411
open CText SlotScan SlotMap

def storedNum (e : EnvLog) : Nat := (flashGetLearnNums e).toNat % 256

def storedMainNum (e : EnvLog) : Nat := (flashGetMainNums e).toNat % 256

/-- The id stored for slot `n`; the slots of the firmware are `1..49`. -/
def storedId (e : EnvLog) (n : Nat) : UInt32 :=
  if 1 ≤ n ∧ n ≤ 49 then flashGetKeyValue .id (UInt32.ofNat n) e else 0

theorem loadSlots_num (e : EnvLog) (n : Nat) (d : DeviceInfo) : (loadSlots e n d).num = d.num := by
  induction n with
  | zero => rfl
  | succ n ih =>
    simp only [loadSlots,loadSlot]
    split <;> exact ih

theorem loadSlots_mainNum (e : EnvLog) (n : Nat) (d : DeviceInfo) :
    (loadSlots e n d).mainNum = d.mainNum := by
  induction n with
  | zero => rfl
  | succ n ih =>
    simp only [loadSlots,loadSlot]
    split <;> exact ih

structure LoadedSlot (e : EnvLog) (d : DeviceInfo) (j : Nat) : Prop where
  id : d.id j = flashGetKeyValue .id (UInt32.ofNat j) e
  bindId : d.bindId j = if d.id j = 0 then 0 else flashGetKeyValue .bind (d.id j) e
  heart : d.heart j = if d.id j = 0 then 0 else (flashGetKeyValue .heart (d.id j) e).toUInt8
  uploadFlag : d.uploadFlag j =
    if d.id j = 0 then 0 else (flashGetKeyValue .upload (d.id j) e).toUInt8

structure UnusedSlot (d : DeviceInfo) (j : Nat) : Prop where
  id : d.id j = 0
  bindId : d.bindId j = 0
  heart : d.heart j = 0
  uploadFlag : d.uploadFlag j = 0

theorem loadSlot_other {e : EnvLog} {i j : Nat} (h : j ≠ i) (d : DeviceInfo) :
    (loadSlot e i d).id j = d.id j ∧ (loadSlot e i d).bindId j = d.bindId j ∧
    (loadSlot e i d).heart j = d.heart j ∧ (loadSlot e i d).uploadFlag j = d.uploadFlag j := by
  unfold loadSlot
  dsimp only
  split <;> simp [h]

theorem loadSlot_self {e : EnvLog} {i : Nat} {d : DeviceInfo} (h : UnusedSlot d i) :
    LoadedSlot e (loadSlot e i d) i := by
  by_cases hz : flashGetKeyValue .id (UInt32.ofNat i) e = 0
  · constructor <;> simp [loadSlot,hz,h.bindId,h.heart,h.uploadFlag]
  · constructor <;> simp [loadSlot,hz]

theorem loadSlots_slot {e : EnvLog} {d : DeviceInfo} (hd : ∀ j, UnusedSlot d j) (n j : Nat) :
    (1 ≤ j ∧ j ≤ n → LoadedSlot e (loadSlots e n d) j) ∧
    (¬ (1 ≤ j ∧ j ≤ n) → UnusedSlot (loadSlots e n d) j) := by
  induction n with
  | zero => exact ⟨fun h => by omega,fun _ => hd j⟩
  | succ n ih =>
    by_cases hj : j = n+1
    · subst hj
      exact ⟨fun _ => loadSlot_self (ih.2 (by omega)),fun h => by omega⟩
    · obtain ⟨hid,hbind,hheart,hflag⟩ := @loadSlot_other e (n+1) j hj (loadSlots e n d)
      constructor
      · intro h
        have hs := ih.1 (by omega)
        exact ⟨hid.trans hs.id,by rw [loadSlots,hbind,hid,hs.bindId],
          by rw [loadSlots,hheart,hid,hs.heart],by rw [loadSlots,hflag,hid,hs.uploadFlag]⟩
      · intro h
        have hs := ih.2 (by omega)
        exact ⟨hid.trans hs.id,hbind.trans hs.bindId,hheart.trans hs.heart,
          hflag.trans hs.uploadFlag⟩

section Load
variable (e : EnvLog)

theorem loadDevice2Memory_num : (loadDevice2Memory e).num = storedNum e := loadSlots_num _ _ _

theorem loadDevice2Memory_mainNum : (loadDevice2Memory e).mainNum = storedMainNum e :=
  loadSlots_mainNum _ _ _

theorem loadDevice2Memory_slot {n : Nat} (h : 1 ≤ n ∧ n ≤ storedNum e) :
    LoadedSlot e (loadDevice2Memory e) n :=
  (loadSlots_slot (fun _ => ⟨rfl,rfl,rfl,rfl⟩) _ n).1 h

theorem loadDevice2Memory_unused {n : Nat} (h : ¬ (1 ≤ n ∧ n ≤ storedNum e)) :
    UnusedSlot (loadDevice2Memory e) n :=
  (loadSlots_slot (fun _ => ⟨rfl,rfl,rfl,rfl⟩) _ n).2 h

end Load

/-- An environment from which a well-formed table can be rebuilt. -/
structure EnvOk (e : EnvLog) : Prop where
  num_le : storedNum e ≤ 49
  keyed : Keyed 0 (storedNum e) (storedId e)

theorem envOk_nil : EnvOk [] := by
  refine ⟨by decide,?_,?_⟩
  · intro n hn
    simp [storedId,flashGetKeyValue,readValue,efGetEnvBlob] at hn
  · intro n m hn
    simp [storedId,flashGetKeyValue,readValue,efGetEnvBlob] at hn

theorem EnvOk.load_id {e : EnvLog} (h : EnvOk e) : (loadDevice2Memory e).id = storedId e := by
  have hnum := h.num_le
  funext n
  by_cases hn : 1 ≤ n ∧ n ≤ storedNum e
  · rw [(loadDevice2Memory_slot e hn).id,storedId,if_pos ⟨hn.1,by omega⟩]
  · rw [(loadDevice2Memory_unused e hn).id]
    by_contra hne
    exact hn (h.keyed.bounded n (Ne.symm hne))

theorem EnvOk.load_inv {e : EnvLog} (h : EnvOk e) : (loadDevice2Memory e).Inv := by
  refine ⟨by rw [loadDevice2Memory_num]; exact h.num_le,?_,?_⟩
  · rw [loadDevice2Memory_num,h.load_id]
    exact h.keyed
  · intro n hn
    by_cases hr : 1 ≤ n ∧ n ≤ storedNum e
    · simp [(loadDevice2Memory_slot e hr).bindId,hn]
    · exact (loadDevice2Memory_unused e hr).bindId

theorem ofNat_slot_inj {n m : Nat} (hn : n ≤ 49) (hm : m ≤ 49)
    (h : UInt32.ofNat n = UInt32.ofNat m) : n = m := by
  have ht := congrArg UInt32.toNat h
  simp only [UInt32.toNat_ofNat'] at ht
  omega

section Writes
variable (e : EnvLog)

@[simp] theorem storedNum_flashChange (t : EnvType) (k v : UInt32) :
    storedNum (flashChange t k v e) = storedNum e := by
  simp [storedNum]

@[simp] theorem storedNum_flashMainNumsChange (v : UInt32) :
    storedNum (flashMainNumsChange v e) = storedNum e := by
  simp [storedNum]

theorem storedNum_flashLearnNumsChange {n : Nat} (hn : n ≤ 49) :
    storedNum (flashLearnNumsChange (UInt32.ofNat n) e) = n := by
  simp only [storedNum,flashGetLearnNums_flashLearnNumsChange,UInt32.toNat_ofNat']
  omega

@[simp] theorem storedId_flashMainNumsChange (v : UInt32) :
    storedId (flashMainNumsChange v e) = storedId e := by
  funext n
  simp [storedId]

@[simp] theorem storedId_flashLearnNumsChange (v : UInt32) :
    storedId (flashLearnNumsChange v e) = storedId e := by
  funext n
  simp [storedId]

theorem storedId_flashChange {t : EnvType} (ht : t ≠ .id) (k v : UInt32) :
    storedId (flashChange t k v e) = storedId e := by
  funext n
  simp [storedId,ht.symm]

theorem storedId_flashIdChange {n : Nat} (h1 : 1 ≤ n) (hn : n ≤ 49) (v : UInt32) :
    storedId (flashIdChange (UInt32.ofNat n) v e) = Function.update (storedId e) n v := by
  funext j
  by_cases hj : j = n
  · subst hj
    simp [storedId,flashIdChange,h1,hn]
  · by_cases hr : 1 ≤ j ∧ j ≤ 49
    · have hne : ¬ UInt32.ofNat j = UInt32.ofNat n := fun h => hj (ofNat_slot_inj hr.2 hn h)
      simp [storedId,flashIdChange,hr,hj,hne]
    · simp [storedId,hr,hj]

end Writes

/-- The operations on the table, and any change of the cloud list between them. -/
inductive StoreOp where
  | deviceAdd2FlashWifi (deviceId fromId : UInt32)
  | delDevice (deviceId : UInt32)
  | delMainBind (deviceId : UInt32)
  | flashSetHeart (deviceId : UInt32) (heart : UInt8)
  | flashSetUploadFlag (deviceId : UInt32) (flag : UInt8)
  | remoteList (remote : RemoteInfo)

def storeStep (g : Gateway) : StoreOp → Gateway
  | .deviceAdd2FlashWifi id fromId => deviceAdd2FlashWifi id fromId g
  | .delDevice id => (delDevice id g).2
  | .delMainBind id => (delMainBind id g).2
  | .flashSetHeart id v => (flashSetHeart id v g).2
  | .flashSetUploadFlag id v => (flashSetUploadFlag id v g).2
  | .remoteList remote => { g with remoteDevice := remote }

def StoreOp.NonZero : StoreOp → Prop
  | .deviceAdd2FlashWifi id _ => id ≠ 0
  | .delDevice id => id ≠ 0
  | .delMainBind id => id ≠ 0
  | .flashSetHeart id _ => id ≠ 0
  | .flashSetUploadFlag id _ => id ≠ 0
  | .remoteList _ => True

end GatewayF411
