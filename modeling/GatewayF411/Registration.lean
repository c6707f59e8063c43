import GatewayF411.CloudNews
import GatewayF411.Registry

set_option autoImplicit false

namespace GatewayF411
open CText SlotScan

def DeviceInfo.Full (d : DeviceInfo) : Prop := ∀ n, 1 ≤ n → n ≤ 49 → d.id n ≠ 0

structure DeviceInfo.FirstFree (d : DeviceInfo) (n : Nat) : Prop where
  pos : 1 ≤ n
  le : n ≤ 49
  free : d.id n = 0
  below : ∀ j, 1 ≤ j → j < n → d.id j ≠ 0

def CloudFrame.Announces (id : UInt32) (f : CloudFrame) : Prop :=
  ∃ mcuVer pid pkType channel ota, f = .subdeviceAdd mcuVer pid pkType (fmtLd id) channel ota

/-- The table, the environment and the frames sent are the same. -/
structure Untouched (g g' : Gateway) : Prop where
  globalDevice : g'.globalDevice = g.globalDevice
  env : g'.env = g.env
  cloud : g'.cloud = g.cloud

theorem Untouched.refl (g : Gateway) : Untouched g g := ⟨rfl,rfl,rfl⟩

/-- Only a registered device is announced, and a registration that finds no slot does nothing. -/
structure RegistrationHonest (id fromId : UInt32) (g : Gateway) : Prop where
  announced : ∀ f ∈ (deviceAdd2FlashWifi id fromId g).cloud.drop g.cloud.length, f.Announces id →
    (deviceAdd2FlashWifi id fromId g).globalDevice.Registered id
  failed : g.globalDevice.Full → ¬ g.globalDevice.Registered id →
    Untouched g (deviceAdd2FlashWifi id fromId g)

theorem registered_of_valid {d : DeviceInfo} {id : UInt32} (hid : id ≠ 0) :
    d.Registered id ↔ flashGetKeyValid d id = .eok := by
  rw [flashGetKeyValid_eok]
  exact ⟨fun h => h.2,fun h => ⟨hid,h⟩⟩

theorem flashGetKeyValid_error {d : DeviceInfo} {id : UInt32} :
    flashGetKeyValid d id = .error ↔ ¬ flashGetKeyValid d id = .eok := by
  cases flashGetKeyValid d id <;> simp

theorem DeviceInfo.FirstFree.unique {d : DeviceInfo} {n k : Nat} (hn : d.FirstFree n)
    (hk : d.FirstFree k) : n = k := by
  rcases Nat.lt_trichotomy n k with hlt | heq | hgt
  · exact absurd hn.free (hk.below n hn.pos hlt)
  · exact heq
  · exact absurd hk.free (hn.below k hk.pos hgt)

theorem addFlash_first {g : Gateway} {n : Nat} (h : g.globalDevice.FirstFree n) (id b : UInt32) :
    addFlash id b g = (.eok,placeDevice n id b (growNum n g)) := by
  rcases getLearnNumsValid_cases g with ⟨_,hfull⟩ | ⟨k,h1,hle,hz,hbelow,hr⟩
  · exact absurd h.free (hfull n h.pos h.le)
  · have hk : k = n := DeviceInfo.FirstFree.unique ⟨h1,hle,hz,hbelow⟩ h
    have hne : n ≠ 0 := Nat.one_le_iff_ne_zero.mp h.pos
    rw [hk] at hr
    simp [addFlash,hr,hne]

theorem addFlash_registered {id : UInt32} (b : UInt32) {g : Gateway} (hid : id ≠ 0)
    (hroom : ¬ g.globalDevice.Full) : (addFlash id b g).2.globalDevice.Registered id := by
  rcases addFlash_cases id b g with ⟨_,hfull⟩ | ⟨n,h1,_,_,hr⟩
  · exact absurd hfull hroom
  · rw [hr]
    exact ⟨hid,n,h1,Nat.le_max_right _ _,by simp [placeDevice]⟩

theorem registerDevice_registered {id : UInt32} (b : UInt32) {g : Gateway} (hid : id ≠ 0)
    (hroom : ¬ g.globalDevice.Full ∨ g.globalDevice.Registered id) :
    (registerDevice id b g).globalDevice.Registered id := by
  unfold registerDevice
  split
  · rename_i hnew
    have hfree : ¬ g.globalDevice.Full := by
      refine hroom.resolve_right fun hreg => ?_
      rw [registered_of_valid hid,hnew] at hreg
      cases hreg
    split
    · rw [mainAddFlash_snd]
      split
      · rw [addMainNums_table]
        exact addFlash_registered 0 hid hfree
      · exact addFlash_registered 0 hid hfree
    · exact addFlash_registered b hid hfree
  · rename_i hknown
    rw [registered_of_valid hid]
    by_contra hno
    exact hknown (flashGetKeyValid_error.mpr hno)

theorem deviceAdd2FlashWifi_registered {id : UInt32} (b : UInt32) {g : Gateway}
    (hr : inRange id = true) (hroom : ¬ g.globalDevice.Full ∨ g.globalDevice.Registered id) :
    (deviceAdd2FlashWifi id b g).globalDevice.Registered id := by
  have hq := announceDevice_quiet (devicePid id) id (registerDevice id b g)
  rw [deviceAdd2FlashWifi_eq,if_pos hr]
  obtain ⟨hid,n,h1,hn,hidn⟩ := registerDevice_registered b (inRange_ne_zero hr) hroom
  exact ⟨hid,n,h1,by rw [hq.num]; exact hn,by rw [hq.id]; exact hidn⟩

theorem registerDevice_full {id : UInt32} (b : UInt32) {g : Gateway} (hfull : g.globalDevice.Full) :
    registerDevice id b g = g := by
  have hadd : ∀ b, addFlash id b g = (.error,g) := by
    intro b
    rcases addFlash_cases id b g with ⟨hr,_⟩ | ⟨n,h1,hn,hz,_⟩
    · exact hr
    · exact absurd hz (hfull n h1 hn)
  unfold registerDevice
  split
  · split
    · rw [mainAddFlash_snd,hadd 0,if_neg (by simp)]
    · rw [hadd b]
  · rfl

theorem deviceAdd2FlashWifi_full {id : UInt32} (b : UInt32) {g : Gateway}
    (hfull : g.globalDevice.Full) (hnew : flashGetKeyValid g.globalDevice id = .error) :
    OnlyEmits g (deviceAdd2FlashWifi id b g) := by
  have hflag : flashSetUploadFlag id 0 g = (.error,g) := by
    simp [flashSetUploadFlag,findSlot_eq_none.mpr hnew]
  rw [deviceAdd2FlashWifi_eq,registerDevice_full b hfull]
  split
  · unfold announceDevice
    rw [hflag]
    split
    · exact addWiFi_onlyEmits _ _ _
    · exact .refl g
  · exact .refl g

/-- The frames of a registration are the announcement of an id that the cloud list does not
hold, whether or not the id was registered. -/
theorem registration_honest_iff (id fromId : UInt32) (g : Gateway) :
    RegistrationHonest id fromId g ↔
      ¬ (inRange id = true ∧ g.globalDevice.Full ∧ ¬ g.globalDevice.Registered id ∧
        remoteGetKeyValid g.remoteDevice id = .error) := by
  have hnews := deviceAdd2FlashWifi_news id fromId g
  constructor
  · rintro h ⟨hr,hfull,hnew,hremote⟩
    have hcloud := (h.failed hfull hnew).cloud
    rw [hnews,if_pos ⟨hr,hremote⟩] at hcloud
    simp [addFrames] at hcloud
  · intro hno
    refine ⟨fun f hf hann => ?_,fun hfull hnew => ?_⟩
    · rw [hnews,List.drop_left] at hf
      by_cases hsent : inRange id = true ∧ remoteGetKeyValid g.remoteDevice id = .error
      · refine deviceAdd2FlashWifi_registered fromId hsent.1 ?_
        by_contra hbad
        rw [not_or,not_not] at hbad
        exact hno ⟨hsent.1,hbad.1,hbad.2,hsent.2⟩
      · rw [if_neg hsent] at hf
        simp at hf
    · by_cases hr : inRange id = true
      · have hvalid := mt (registered_of_valid (inRange_ne_zero hr)).mpr hnew
        obtain ⟨fs,hfs⟩ := deviceAdd2FlashWifi_full fromId hfull (flashGetKeyValid_error.mpr hvalid)
        have hsilent : ¬ (inRange id = true ∧ remoteGetKeyValid g.remoteDevice id = .error) :=
          fun hsent => hno ⟨hr,hfull,hnew,hsent.2⟩
        rw [if_neg hsilent,List.append_nil] at hnews
        exact ⟨by rw [hfs],by rw [hfs],hnews⟩
      · rw [deviceAdd2FlashWifi_eq,if_neg hr]
        exact .refl g

/-- Main 10000001 in slot 1, and 48 of its slaves in the other slots. -/
def fullGateway : Gateway :=
  (powerOn 40000000 []).setTable { DeviceInfo.zero with
    num := 49
    mainNum := 1
    heart n := if 1 ≤ n ∧ n ≤ 49 then 1 else 0
    id n := if n = 1 then 10000001 else if 2 ≤ n ∧ n ≤ 49 then 20000000+UInt32.ofNat n else 0
    bindId n := if 2 ≤ n ∧ n ≤ 49 then 10000001 else 0 }

theorem registration_counterexample :
    ¬ ∀ (id fromId : UInt32) (g : Gateway), RegistrationHonest id fromId g := by
  intro hall
  have hhonest := (hall 30000001 10000001 fullGateway).announced
    (.subdeviceAdd ['1','.','0'] (devicePid 30000001) 0 (fmtLd 30000001) 10 0) (by decide +kernel)
    ⟨_,_,_,_,_,rfl⟩
  have hvalid := (registered_of_valid (by decide)).mp hhonest
  exact absurd hvalid (by decide +kernel)

/-- The operations on `id` do nothing, and the setters say so. -/
structure IdIgnored (id : UInt32) (g : Gateway) : Prop where
  setHeart : ∀ v, (flashSetHeart id v g).1 = .error ∧ Untouched g (flashSetHeart id v g).2
  setUploadFlag : ∀ v,
    (flashSetUploadFlag id v g).1 = .error ∧ Untouched g (flashSetUploadFlag id v g).2
  setMoto : ∀ v, (flashSetMoto id v g).1 = .error ∧ Untouched g (flashSetMoto id v g).2
  setRssi : ∀ v, (flashSetRssi id v g).1 = .error ∧ Untouched g (flashSetRssi id v g).2
  delDevice : Untouched g (delDevice id g).2

theorem idIgnored_of_none {id : UInt32} {g : Gateway} (h : findSlot g.globalDevice id = none) :
    IdIgnored id g where
  setHeart v := by
    rw [flashSetHeart,h]
    exact ⟨rfl,.refl g⟩
  setUploadFlag v := by
    rw [flashSetUploadFlag,h]
    exact ⟨rfl,.refl g⟩
  setMoto v := by
    rw [flashSetMoto,h]
    exact ⟨rfl,.refl g⟩
  setRssi v := by
    rw [flashSetRssi,h]
    exact ⟨rfl,.refl g⟩
  delDevice := by
    rw [delDevice_none h]
    exact .refl g

/-- The search that all five operations run decides it. -/
theorem idIgnored_iff {id : UInt32} {g : Gateway} :
    IdIgnored id g ↔ findSlot g.globalDevice id = none := by
  refine ⟨fun h => ?_,idIgnored_of_none⟩
  have herr := (h.setMoto 0).1
  cases hs : findSlot g.globalDevice id with
  | none => rfl
  | some n =>
    rw [flashSetMoto,hs] at herr
    cases herr

/-- An id that is not registered is ignored, unless it is 0 and a slot below `Num` is free. -/
theorem unknown_id_ignored_iff (g : Gateway) (id : UInt32) (hid : ¬ g.globalDevice.Registered id) :
    IdIgnored id g ↔
      (id = 0 → ∀ n, 1 ≤ n → n ≤ g.globalDevice.num → g.globalDevice.id n ≠ 0) := by
  have hslot : findSlot g.globalDevice id = none ↔
      ¬ ∃ n, 1 ≤ n ∧ n ≤ g.globalDevice.num ∧ g.globalDevice.id n = id := by
    rw [findSlot_eq_none,flashGetKeyValid_error,flashGetKeyValid_eok]
  rw [idIgnored_iff,hslot]
  constructor
  · rintro hnone rfl n h1 hn hz
    exact hnone ⟨n,h1,hn,hz⟩
  · rintro hfree ⟨n,h1,hn,hidn⟩
    by_cases hz : id = 0
    · exact hfree hz n h1 hn (hidn.trans hz)
    · exact hid ⟨hz,n,h1,hn,hidn⟩

/-- Mains 10000001 and 10000002 are learned and the cloud deletes the first. -/
def freedSlotRun : List Event :=
  [learnMain '1',learnMain '2',.subdeviceDelete ['1','0','0','0','0','0','0','1']]

/-- The deleted main is unknown, next to one that is registered. -/
theorem unknown_id_ignored_main : IdIgnored 10000001 (run (powerOn 40000000 []) freedSlotRun) := by
  have hnew : ¬ (run (powerOn 40000000 []) freedSlotRun).globalDevice.Registered 10000001 := by
    rw [registered_of_valid (by decide)]
    decide
  exact (unknown_id_ignored_iff (run (powerOn 40000000 []) freedSlotRun) 10000001 hnew).mpr
    fun h => absurd h (by decide)

/-- The id 0 finds the freed slot, and main 10000002 is reported offline. -/
theorem unknown_id_counterexample :
    ¬ ∀ (g : Gateway) (id : UInt32), Reachable g → ¬ g.globalDevice.Registered id →
      IdIgnored id g := by
  intro hall
  have hignored := hall (run (powerOn 40000000 []) freedSlotRun) 0 ⟨40000000,freedSlotRun,rfl⟩
    (fun h => h.1 rfl)
  exact absurd (hignored.setHeart 0).2.cloud (by decide +kernel)

end GatewayF411
