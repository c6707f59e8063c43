import GatewayF411.MainLimit
import GatewayF411.DeviceMap
import GatewayF411.Registry

/-!
`MainNum` against the number of registered mains, over the two deletions. `Del_Device`
counts down once for the main it removes; `Del_MainBind` counts down once for each slot
its scan frees, whatever the slot holds.
-/

set_option autoImplicit false

namespace GatewayF411
open CText SlotScan

/-- `MainNum` and its persisted copy are the number of registered mains. -/
structure MainNumExact (g : Gateway) : Prop where
  ram : g.globalDevice.mainNum = g.globalDevice.mains.ncard
  persisted : (flashGetMainNums g.env).toNat = g.globalDevice.mains.ncard

/-- What the scan of `Del_MainBind` must find for its decrements to be right. -/
def BindsCounted (d : DeviceInfo) (id : UInt32) : Prop :=
  if isMain id then (∀ n, d.BoundTo id n → isMain (d.id n) = true) ∨
    (∀ n, isMain (d.id n) = true → d.BoundTo id n)
  else ∀ n, isMain (d.id n) = true → ¬ d.BoundTo id n

def DeviceInfo.mainSlots (d : DeviceInfo) : Finset Nat :=
  {n ∈ Finset.Icc 1 d.num | isMain (d.id n) = true}

def DeviceInfo.boundSlots (d : DeviceInfo) (id : UInt32) : Finset Nat :=
  {n ∈ Finset.Icc 1 d.num | d.BoundTo id n}

section Slots
variable {d : DeviceInfo} (h : d.Inv)
include h

theorem DeviceInfo.Inv.mem_mainSlots {n : Nat} : n ∈ d.mainSlots ↔ isMain (d.id n) = true := by
  simp only [mainSlots,Finset.mem_filter,Finset.mem_Icc]
  exact and_iff_right_of_imp fun hm => h.keyed.bounded n (isMain_ne_zero hm)

theorem DeviceInfo.Inv.mem_boundSlots {id : UInt32} (hid : id ≠ 0) {n : Nat} :
    n ∈ d.boundSlots id ↔ d.BoundTo id n := by
  simp only [boundSlots,Finset.mem_filter,Finset.mem_Icc]
  exact and_iff_right_of_imp fun hb => h.keyed.bounded n (h.bound_occupied hid hb)

/-- Mains stand in one slot each, so their slots count them. -/
theorem DeviceInfo.Inv.mains_ncard : d.mains.ncard = d.mainSlots.card := by
  have himage : d.mains = ↑(d.mainSlots.image d.id) := by
    ext id
    simp only [h.mem_mains,Finset.coe_image,Set.mem_image,Finset.mem_coe,h.mem_mainSlots]
    constructor
    · rintro ⟨hm,n,rfl⟩
      exact ⟨n,hm,rfl⟩
    · rintro ⟨n,hm,rfl⟩
      exact ⟨hm,n,rfl⟩
  rw [himage,Set.ncard_coe_finset,Finset.card_image_of_injOn]
  intro n hn k _ hnk
  exact h.keyed.distinct n k (isMain_ne_zero (h.mem_mainSlots.mp hn)) hnk

theorem DeviceInfo.Inv.mains_ncard_le : d.mains.ncard ≤ 49 := by
  have hcard := Finset.card_filter_le (Finset.Icc 1 d.num) fun n => isMain (d.id n) = true
  have hle := h.num_le
  rw [Nat.card_Icc] at hcard
  rw [h.mains_ncard,mainSlots]
  omega

end Slots

def CounterStored (g : Gateway) : Prop :=
  flashGetMainNums g.env = UInt32.ofNat g.globalDevice.mainNum

theorem ifDelMainNums_stored {g : Gateway} (h : CounterStored g) (id : UInt32) :
    CounterStored (if isMain id then (delMainNums g).2 else g) := by
  split
  · unfold delMainNums
    dsimp only
    split
    · simp [CounterStored,setMainNums]
    · exact h
  · exact h

theorem clearSlot_stored {g : Gateway} (h : CounterStored g) (n : Nat) (id : UInt32) :
    CounterStored (clearSlot n id g) := by
  simpa [CounterStored,clearSlot,flashUploadFlagChange,flashBindChange,flashIdChange] using h

theorem delDevice_stored {g : Gateway} (h : CounterStored g) (id : UInt32) :
    CounterStored (delDevice id g).2 := by
  cases hs : findSlot g.globalDevice id with
  | none =>
    rw [delDevice_none hs]
    exact h
  | some n =>
    simp only [delDevice,hs]
    apply clearSlot_stored
    rw [CounterStored,remoteDeviceDelete_env,remoteDeviceDelete_table]
    exact ifDelMainNums_stored h id

theorem delMainBind_stored {g : Gateway} (h : CounterStored g) (id : UInt32) :
    CounterStored (delMainBind id g).2 := by
  refine foldDown_keeps CounterStored (fun n s hs => ?_) h
  unfold delMainBindBody
  split
  · apply clearSlot_stored
    rw [CounterStored,localDelete_env,localDelete_table]
    exact ifDelMainNums_stored hs id
  · exact hs

/-- The slots that the scan has freed when slots `1..n` are still to do. -/
def DeviceInfo.boundAbove (d : DeviceInfo) (id : UInt32) (n : Nat) : Finset Nat :=
  {j ∈ d.boundSlots id | n < j}

theorem DeviceInfo.Inv.boundAbove_card {d : DeviceInfo} (h : d.Inv) {id : UInt32} (hid : id ≠ 0)
    (n : Nat) : (d.boundAbove id n).card =
      (d.boundAbove id (n+1)).card + if d.BoundTo id (n+1) then 1 else 0 := by
  by_cases hb : d.BoundTo id (n+1)
  · have hinsert : d.boundAbove id n = insert (n+1) (d.boundAbove id (n+1)) := by
      ext j
      by_cases hj : j = n+1
      · simp [boundAbove,hj,(h.mem_boundSlots hid).mpr hb]
      · simp only [boundAbove,Finset.mem_filter,Finset.mem_insert,hj,false_or,and_congr_right_iff]
        omega
    rw [hinsert,Finset.card_insert_of_notMem (by simp [boundAbove]),if_pos hb]
  · have hsame : d.boundAbove id n = d.boundAbove id (n+1) := by
      refine Finset.filter_congr fun j hj => ?_
      have hne : j ≠ n+1 := fun hjn => hb (hjn ▸ (h.mem_boundSlots hid).mp hj)
      omega
    simp [hsame,hb]

/-- The state of the scan of `Del_MainBind` when slots `1..n` are still to do. -/
structure ScannedTo (d : DeviceInfo) (id : UInt32) (n : Nat) (d' : DeviceInfo) : Prop where
  masked : d.Masked d' (fun j => n < j ∧ d.BoundTo id j)
  mainNum : d'.mainNum = d.mainNum-(d.boundAbove id n).card

theorem delMainBindBody_scannedTo {d : DeviceInfo} (h : d.Inv) {id : UInt32}
    (hm : isMain id = true) {n : Nat} {g : Gateway} (hs : ScannedTo d id (n+1) g.globalDevice) :
    ScannedTo d id n (delMainBindBody id (n+1) g).globalDevice := by
  have hcard := h.boundAbove_card (isMain_ne_zero hm) n
  have hcount := hs.mainNum
  have hsame : g.globalDevice.BoundTo id (n+1) ↔ d.BoundTo id (n+1) := by
    simp [DeviceInfo.BoundTo,hs.masked.bindId,hs.masked.id]
  refine ⟨delMainBindBody_masked hs.masked,?_⟩
  by_cases hb : g.globalDevice.BoundTo id (n+1)
  · rw [if_pos (hsame.mp hb)] at hcard
    rw [delMainBindBody_table hb]
    simp only [DeviceInfo.clear,hm,if_true]
    omega
  · rw [if_neg fun hd => hb (hsame.mpr hd)] at hcard
    rw [delMainBindBody_skip hb]
    omega

theorem delMainBind_mainNum {g : Gateway} (h : g.globalDevice.Inv) {id : UInt32}
    (hm : isMain id = true) : (delMainBind id g).2.globalDevice.mainNum =
      g.globalDevice.mainNum-(g.globalDevice.boundSlots id).card := by
  have hid := isMain_ne_zero hm
  have hbound : ∀ j, g.globalDevice.BoundTo id j → 1 ≤ j ∧ j ≤ g.globalDevice.num :=
    fun j hj => h.keyed.bounded j (h.bound_occupied hid hj)
  have hnone : ∀ j, ¬ (g.globalDevice.num < j ∧ g.globalDevice.BoundTo id j) := by
    intro j hj
    have hn := hbound j hj.2
    omega
  have hempty : g.globalDevice.boundAbove id g.globalDevice.num = ∅ := by
    refine Finset.filter_eq_empty_iff.mpr fun j hj hlt => ?_
    exact hnone j ⟨hlt,(h.mem_boundSlots hid).mp hj⟩
  have hall : g.globalDevice.boundAbove id 0 = g.globalDevice.boundSlots id :=
    Finset.filter_true_of_mem fun j hj => (hbound j ((h.mem_boundSlots hid).mp hj)).1
  have hstart : ScannedTo g.globalDevice id g.globalDevice.num g.globalDevice := by
    refine ⟨?_,by simp [hempty]⟩
    constructor <;> simp [hnone]
  have hloop := foldDown_invariant
    (fun n (s : Gateway) => ScannedTo g.globalDevice id n s.globalDevice)
    (fun n s hs => delMainBindBody_scannedTo h hm hs) hstart
  have hcount := hloop.mainNum
  rw [hall] at hcount
  exact hcount

theorem delMainBind_mainNum_other {g : Gateway} {id : UInt32} (hm : ¬ isMain id = true) :
    (delMainBind id g).2.globalDevice.mainNum = g.globalDevice.mainNum := by
  refine foldDown_keeps (fun s : Gateway => s.globalDevice.mainNum = g.globalDevice.mainNum)
    (fun n s hs => ?_) rfl
  by_cases hb : s.globalDevice.BoundTo id n
  · rw [delMainBindBody_table hb]
    simpa [DeviceInfo.clear,hm] using hs
  · rw [delMainBindBody_skip hb]
    exact hs

theorem delMainBind_mains_ncard {g : Gateway} (h : g.globalDevice.Inv) {id : UInt32}
    (hid : id ≠ 0) : (delMainBind id g).2.globalDevice.mains.ncard =
      (g.globalDevice.mainSlots \ g.globalDevice.boundSlots id).card := by
  have hmask := delMainBind_masked h hid
  rw [(delMainBind_inv h).mains_ncard]
  congr 1
  ext n
  rw [(delMainBind_inv h).mem_mainSlots,Finset.mem_sdiff,h.mem_mainSlots,h.mem_boundSlots hid,
    hmask.id]
  by_cases hb : g.globalDevice.BoundTo id n
  · simp [hb,isMain]
  · simp [hb]

theorem mainNumExact_iff {g : Gateway} (h : g.globalDevice.Inv) (hs : CounterStored g) :
    MainNumExact g ↔ g.globalDevice.mainNum = g.globalDevice.mains.ncard := by
  constructor
  · exact fun hexact => hexact.ram
  · intro hram
    have hle := h.mains_ncard_le
    refine ⟨hram,?_⟩
    rw [hs,UInt32.toNat_ofNat',hram,Nat.mod_eq_of_lt (by omega)]

theorem MainNumExact.stored {g : Gateway} (h : MainNumExact g) : CounterStored g := by
  rw [CounterStored,h.ram,← h.persisted,UInt32.ofNat_toNat]

theorem delDevice_mainNumExact {g : Gateway} (h : g.globalDevice.Inv) (hc : MainNumExact g)
    (id : UInt32) : MainNumExact (delDevice id g).2 := by
  rw [mainNumExact_iff (delDevice_inv h) (delDevice_stored hc.stored id)]
  cases hs : findSlot g.globalDevice id with
  | none =>
    rw [delDevice_none hs]
    exact hc.ram
  | some n =>
    have hn := (findSlot_sound hs).2.2
    have hslots : (g.globalDevice.clear id n).mainSlots = g.globalDevice.mainSlots.erase n := by
      ext j
      rw [(h.clear id n).mem_mainSlots,Finset.mem_erase,h.mem_mainSlots]
      by_cases hj : j = n
      · simp [DeviceInfo.clear,hj,isMain]
      · simp [DeviceInfo.clear,hj]
    rw [delDevice_table hs,(h.clear id n).mains_ncard,hslots]
    by_cases hm : isMain id = true
    · rw [Finset.card_erase_of_mem (h.mem_mainSlots.mpr (by rw [hn]; exact hm)),← h.mains_ncard]
      simp [DeviceInfo.clear,hm,hc.ram]
    · rw [Finset.erase_eq_of_notMem fun hmem => hm (hn ▸ h.mem_mainSlots.mp hmem),← h.mains_ncard]
      simp [DeviceInfo.clear,hm,hc.ram]

/-- As many decrements as slots freed are as many as mains removed, up to the floor at 0. -/
theorem card_sub_eq_card_sdiff {α : Type} [DecidableEq α] (s t : Finset α) :
    s.card-t.card = (s \ t).card ↔ t ⊆ s ∨ s ⊆ t := by
  have hsplit := Finset.card_sdiff_add_card_inter s t
  constructor
  · intro heq
    by_cases hle : t.card ≤ s.card
    · refine .inl (Finset.inter_eq_right.mp (Finset.eq_of_subset_of_card_le
        Finset.inter_subset_right ?_))
      omega
    · refine .inr (Finset.sdiff_eq_empty_iff_subset.mp (Finset.card_eq_zero.mp ?_))
      omega
  · intro hsub
    rcases hsub with hsub | hsub
    · rw [Finset.inter_eq_right.mpr hsub] at hsplit
      omega
    · have hle := Finset.card_le_card hsub
      rw [Finset.sdiff_eq_empty_iff_subset.mpr hsub,Finset.card_empty]
      omega

theorem card_eq_card_sdiff {α : Type} [DecidableEq α] (s t : Finset α) :
    s.card = (s \ t).card ↔ Disjoint s t := by
  constructor
  · intro heq
    exact Finset.sdiff_eq_self_iff_disjoint.mp
      (Finset.eq_of_subset_of_card_le Finset.sdiff_subset (by omega))
  · intro hdisj
    rw [Finset.sdiff_eq_self_of_disjoint hdisj]

theorem delMainBind_mainNumExact_iff {g : Gateway} (h : g.globalDevice.Inv) (hc : MainNumExact g)
    {id : UInt32} (hid : id ≠ 0) :
    MainNumExact (delMainBind id g).2 ↔ BindsCounted g.globalDevice id := by
  rw [mainNumExact_iff (delMainBind_inv h) (delMainBind_stored hc.stored id),
    delMainBind_mains_ncard h hid]
  have hram := hc.ram
  rw [h.mains_ncard] at hram
  by_cases hm : isMain id = true
  · rw [delMainBind_mainNum h hm,hram,card_sub_eq_card_sdiff]
    simp only [BindsCounted,hm,if_true,Finset.subset_iff,h.mem_mainSlots,h.mem_boundSlots hid]
  · rw [delMainBind_mainNum_other hm,hram,card_eq_card_sdiff]
    simp only [BindsCounted,hm,Finset.disjoint_left,h.mem_mainSlots,h.mem_boundSlots hid]
    rfl

/-- After `Del_Device` and after `Del_MainBind` the counter is right again exactly when the
slots that the scan of `Del_MainBind` frees are the mains it should count. -/
theorem main_count_after_deletion_iff (g : Gateway) (id : UInt32) (h : g.globalDevice.Inv)
    (hc : MainNumExact g) (hid : id ≠ 0) :
    (MainNumExact (delDevice id g).2 ∧ MainNumExact (delMainBind id g).2) ↔
      BindsCounted g.globalDevice id := by
  rw [and_iff_right (delDevice_mainNumExact h hc id),delMainBind_mainNumExact_iff h hc hid]

def boundMainGateway : Gateway :=
  run (powerOn 40000000 []) [learnMain '1',learnMain '2',radioText slaveOnlineText]

theorem boundMainGateway_inv : boundMainGateway.globalDevice.Inv :=
  (reachable_wellKept ⟨40000000,_,rfl⟩).inv

theorem boundMainGateway_exact : MainNumExact boundMainGateway := by
  have hslots : boundMainGateway.globalDevice.mainSlots.card = 2 := by decide +kernel
  refine ⟨?_,?_⟩ <;> rw [boundMainGateway_inv.mains_ncard,hslots] <;> decide +kernel

theorem main_count_after_deletion_second :
    MainNumExact (delDevice 10000002 boundMainGateway).2 ∧
      MainNumExact (delMainBind 10000002 boundMainGateway).2 := by
  refine (main_count_after_deletion_iff boundMainGateway 10000002 boundMainGateway_inv
    boundMainGateway_exact (by decide)).mpr ?_
  have hm : isMain 10000002 = true := by decide
  simp only [BindsCounted,hm,if_true]
  refine .inl fun n hn => ?_
  have hb := boundMainGateway_inv.keyed.bounded n
    (boundMainGateway_inv.bound_occupied (by decide) hn)
  have hnum : boundMainGateway.globalDevice.num = 3 := by decide +kernel
  have hcases : n = 1 ∨ n = 2 ∨ n = 3 := by omega
  rcases hcases with rfl | rfl | rfl
  · exact absurd hn (by decide +kernel)
  · decide +kernel
  · exact absurd hn (by decide +kernel)

/-- Deleting the first main with its slave counts both, although one main stays registered. -/
theorem main_count_counterexample :
    ¬ ∀ (g : Gateway) (id : UInt32), g.globalDevice.Inv → MainNumExact g → id ≠ 0 →
      MainNumExact (delDevice id g).2 ∧ MainNumExact (delMainBind id g).2 := by
  intro hall
  have hexact := (hall boundMainGateway 10000001 boundMainGateway_inv boundMainGateway_exact
    (by decide)).2.ram
  rw [(delMainBind_inv boundMainGateway_inv).mains_ncard] at hexact
  exact absurd hexact (by decide +kernel)

end GatewayF411
