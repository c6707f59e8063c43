import GatewayF411.CloudMirror

set_option autoImplicit false

namespace GatewayF411
open CText SlotScan Runs

section Silent
variable {asked : UInt32 → Prop} {g g' : Gateway} {ids : List UInt32}

theorem Hush.sound (h : Hush g g') (hp : SoundMirror asked g.remoteDevice ids) :
    SoundMirror asked g'.remoteDevice (told ids (g'.cloud.drop g.cloud.length)) := by
  rw [(h.toTold ids).eq,h.remoteDevice]
  exact hp

theorem Told.sound {ids' : List UInt32} (h : Told g ids g' ids')
    (hremote : g'.remoteDevice = g.remoteDevice) (hsub : ∀ id ∈ ids, id ∈ ids')
    (hp : SoundMirror asked g.remoteDevice ids) :
    SoundMirror asked g'.remoteDevice (told ids (g'.cloud.drop g.cloud.length)) := by
  rw [h.eq,hremote]
  exact hp.mono hsub

end Silent

theorem add_sound {asked : UInt32 → Prop} {g g1 g' : Gateway} {ids : List UInt32} (id b : UInt32)
    (h1 : Hush g g1) (h2 : Hush (deviceAdd2FlashWifi id b g1) g')
    (hp : SoundMirror asked g.remoteDevice ids) :
    SoundMirror asked g'.remoteDevice (told ids (g'.cloud.drop g.cloud.length)) := by
  refine (((h1.toTold ids).trans (deviceAdd2FlashWifi_told id b g1 ids)).trans (h2.toTold _)).sound
    ?_ (fun x hx => ?_) hp
  · rw [h2.remoteDevice,deviceAdd2FlashWifi_remote,h1.remoteDevice]
  · split
    · exact List.mem_cons_of_mem _ hx
    · exact hx

theorem Hush.valid {g g' : Gateway} (h : Hush g g') (id : UInt32) :
    flashGetKeyValid g'.globalDevice id = flashGetKeyValid g.globalDevice id := by
  unfold flashGetKeyValid findSlot
  rw [h.num,h.id]

theorem delDevice_told (id : UInt32) (g : Gateway) (ids : List UInt32) :
    Told g ids (delDevice id g).2 ids := ⟨[],by rw [delDevice_cloud,List.append_nil],rfl⟩

theorem syncMirrored_of_type {asked : UInt32 → Prop} {v : CloudView} {m : Message} {t : Int}
    (ht : m.type = t) (h2 : t ≠ 2) (h4 : t ≠ 4) : SyncMirrored asked v m :=
  ⟨fun h => absurd (ht.symm.trans h) h2,fun h => absurd (ht.symm.trans h) h4⟩

section Radio
variable {asked : UInt32 → Prop} {v : CloudView}
  (hp : SoundMirror asked v.gateway.remoteDevice v.subdevs)
include hp

theorem syncDelete_mirror_iff {g1 : Gateway} (h1 : Hush v.gateway g1) (id : UInt32) :
    SoundMirror asked (delDevice id (localDelete id g1)).2.remoteDevice
      (told v.subdevs ((delDevice id (localDelete id g1)).2.cloud.drop v.gateway.cloud.length)) ↔
      DeletionMirrored asked v id := by
  have htold := ((h1.toTold v.subdevs).trans (localDelete_told id g1 v.subdevs)).trans
    (delDevice_told id _ _)
  rw [htold.eq]
  obtain ⟨fs,hfs,_⟩ := localDelete_news id g1
  refine delDevice_sound_iff hp ?_ ?_
  · rw [hfs]
    exact h1.remoteDevice
  · rw [localDelete_table]
    exact h1.valid id

theorem delMainBind_mirror_iff {g1 : Gateway} (h1 : Hush v.gateway g1) (a : UInt32) :
    SoundMirror asked (delMainBind a g1).2.remoteDevice
      (told v.subdevs ((delMainBind a g1).2.cloud.drop v.gateway.cloud.length)) ↔
      ∀ j, 1 ≤ j → j ≤ v.gateway.globalDevice.num → v.gateway.globalDevice.BoundTo a j →
        asked (v.gateway.globalDevice.id j) →
        remoteGetKeyValid v.gateway.remoteDevice (v.gateway.globalDevice.id j) = .error := by
  obtain ⟨ids,hids,hmem⟩ := delMainBind_told a g1 v.subdevs
  rw [((h1.toTold v.subdevs).trans hids).eq,(delMainBind_news a g1).1,h1.remoteDevice]
  unfold DeviceInfo.BoundTo at hmem ⊢
  rw [h1.num,h1.id,h1.bindId] at hmem
  constructor
  · intro hp' j hj1 hjn hb ha
    rw [remoteGetKeyValid_error]
    intro hm
    exact ((hmem _).mp (hp' _ ha hm)).2 j hj1 hjn hb rfl
  · intro hall id ha hm
    refine (hmem id).mpr ⟨hp id ha hm,fun j hj1 hjn hb heq => ?_⟩
    rw [← heq] at ha hm
    rw [hall j hj1 hjn hb ha] at hm
    cases hm

theorem syncCommand_mirror_iff {g1 : Gateway} (h1 : Hush v.gateway g1) (m : Message) :
    SoundMirror asked (syncCommand m g1).remoteDevice
      (told v.subdevs ((syncCommand m g1).cloud.drop v.gateway.cloud.length)) ↔
      SyncMirrored asked v m := by
  have hrefresh := h1.trans (syncRefresh_still g1).hush
  have honline : ∀ g2, Hush (deviceAdd2FlashWifi (u32 m.deviceId) (u32 m.fromId) g2)
      (syncOnline m g2) := fun g2 => (flashSetHeart_hush _ _ _).trans <|
    (deviceUp_hush _ _).trans (syncOnline_heartCall g2 m).hush
  unfold syncCommand
  split
  · rename_i ht
    exact iff_of_true ((h1.trans (deviceSeen_heartCall g1 m).hush).sound hp)
      (syncMirrored_of_type ht (by decide) (by decide))
  · rename_i ht
    rw [syncDelete_mirror_iff hp h1]
    refine ⟨fun hd => ⟨fun _ => hd,fun h4 => ?_⟩,fun hm => hm.deleted ht⟩
    rw [ht] at h4
    contradiction
  · rename_i ht
    exact iff_of_true (add_sound _ _ hrefresh (honline _) hp)
      (syncMirrored_of_type ht (by decide) (by decide))
  · rename_i ht
    rw [delMainBind_mirror_iff hp h1]
    refine ⟨fun hd => ⟨fun h2 => ?_,fun _ => hd⟩,fun hm => hm.dropped ht⟩
    rw [ht] at h2
    contradiction
  · rename_i ht
    exact iff_of_true (add_sound _ _ hrefresh (syncOffline_heartCall _ m).hush hp)
      (syncMirrored_of_type ht (by decide) (by decide))
  · rename_i ht
    exact iff_of_true (add_sound _ _ h1 (honline _) hp)
      (syncMirrored_of_type ht (by decide) (by decide))
  · rename_i _ h2 _ h4 _ _
    exact iff_of_true (h1.sound hp) (syncMirrored_of_type rfl h2 h4)

theorem deviceLearn_mirror_iff (m : Message) (hcmd : m.command = 3) {g' : Gateway}
    (hc : Hush (deviceLearn m v.gateway) g') :
    SoundMirror asked g'.remoteDevice
      (told v.subdevs (g'.cloud.drop v.gateway.cloud.length)) ↔ LearnMirrored asked v m := by
  rcases deviceLearn_cases v.gateway m hcmd with ⟨hno,hs⟩ | ⟨hl,heq⟩
  · exact iff_of_true ((hs.hush.trans hc).sound hp) fun _ hl => absurd hl hno
  · rw [heq] at hc
    have hne := isMain_ne_zero (isMain_of_int hl.2.2.1)
    have htold := ((delDevice_told (u32 m.fromId) v.gateway v.subdevs).trans
      (deviceAdd2FlashWifi_told (u32 m.fromId) 0 _ v.subdevs)).trans (hc.toTold _)
    rw [htold.eq,hc.remoteDevice,deviceAdd2FlashWifi_remote,relearn_sound_iff hne ?_ ?_ hp]
    · exact ⟨fun h ha _ => h ha,fun h ha => h ha hl⟩
    · intro x hx
      split at hx
      · rcases List.mem_cons.mp hx with rfl | hx
        · exact .inr rfl
        · exact .inl hx
      · exact .inl hx
    · intro x hx
      split
      · exact List.mem_cons_of_mem _ hx
      · exact hx

theorem radio_mirror_iff (junk : Message) (rssi : Int) (buffer : List UInt8) (len : Nat) :
    SoundMirror asked (rf433RxCallback junk rssi buffer len v.gateway).remoteDevice
      (told v.subdevs ((rf433RxCallback junk rssi buffer len v.gateway).cloud.drop
        v.gateway.cloud.length)) ↔ MirrorKept asked v (.event (.radio junk rssi buffer len)) := by
  unfold MirrorKept
  rcases rf433RxCallback_cases v.gateway junk rssi buffer len with ⟨hno,heq⟩ | ⟨hacc,hc⟩ |
    ⟨hacc,g1,hc,heq⟩ | ⟨hacc,g1,hc,heq⟩ | ⟨hacc,g1,hc,heq⟩
  · rw [heq]
    exact iff_of_true ((Hush.refl v.gateway).sound hp)
      ⟨fun hn => absurd (.inl hn) hno,fun hs => absurd (.inr (.inl hs)) hno⟩
  · have hsync : SyncAccepted v.gateway junk buffer len →
        SyncMirrored asked v (parseSync (gatewayFields buffer) junk) := by
      intro hs
      have hroute := hacc.1.symm.trans hs.1
      contradiction
    by_cases hcmd : (parseNormal (normalFields buffer) junk).command = 3
    · rw [if_pos hcmd] at hc
      rw [deviceLearn_mirror_iff hp _ hcmd hc.hush]
      exact ⟨fun h => ⟨fun _ => h,hsync⟩,fun h => h.1 hacc⟩
    · rw [if_neg hcmd] at hc
      exact iff_of_true (hc.hush.sound hp) ⟨fun _ _ hl => absurd hl.1 hcmd,hsync⟩
  · have hnormal : ¬ NormalAccepted v.gateway junk buffer len := by
      intro hn
      have hroute := hacc.1.symm.trans hn.1
      contradiction
    rw [heq,syncCommand_mirror_iff hp hc.hush]
    exact ⟨fun h => ⟨fun hn => absurd hn hnormal,fun _ => h⟩,fun h => h.2 hacc⟩
  · rw [heq]
    refine iff_of_true ((hc.hush.trans (warningCommand_hush _ g1)).sound hp) ⟨fun hn => ?_,fun hs => ?_⟩
    · have hroute := hacc.1.symm.trans hn.1
      contradiction
    · have hroute := hacc.1.symm.trans hs.1
      contradiction
  · rw [heq]
    refine iff_of_true ((hc.hush.trans (controlCommand_hush _ g1)).sound hp) ⟨fun hn => ?_,fun hs => ?_⟩
    · have hroute := hacc.1.symm.trans hn.1
      contradiction
    · have hroute := hacc.1.symm.trans hs.1
      contradiction

end Radio

theorem subdevNodes_eq (packet : List UInt8) (count left offset : Nat) (nodes : Nat → UInt8)
    (g : Gateway) : subdevNodes packet count left offset nodes g =
      (subdevIds packet count left offset nodes).foldl (fun g id => remoteDeviceAdd id g) g := by
  induction left generalizing offset nodes g with
  | zero => rfl
  | succ left ih => rw [subdevNodes,subdevIds,List.foldl_cons,ih]

theorem length_subdevIds (packet : List UInt8) (count left offset : Nat) (nodes : Nat → UInt8) :
    (subdevIds packet count left offset nodes).length = left := by
  induction left generalizing offset nodes with
  | zero => rfl
  | succ left ih => rw [subdevIds,List.length_cons,ih]

theorem length_readIds (packet : List UInt8) : (readIds packet).length = (packet.getD 1 0).toNat :=
  length_subdevIds packet _ _ _ _

theorem remoteDeviceAdd_eok {g : Gateway} (hfit : g.remoteDevice.num+1 < 256) {id x : UInt32} :
    remoteGetKeyValid (remoteDeviceAdd id g).remoteDevice x = .eok ↔
      remoteGetKeyValid g.remoteDevice x = .eok ∨ x = id := by
  have hnum : (g.remoteDevice.num+1) % 256 = g.remoteDevice.num+1 := Nat.mod_eq_of_lt hfit
  simp only [remoteGetKeyValid_eok,remoteDeviceAdd,hnum]
  constructor
  · intro h
    obtain ⟨n,h1,hn,hx⟩ := h
    by_cases heq : n = g.remoteDevice.num+1
    · exact .inr (by simpa [heq] using hx.symm)
    · exact .inl ⟨n,h1,by omega,by simpa [heq] using hx⟩
  · intro h
    rcases h with ⟨n,h1,hn,hx⟩ | rfl
    · exact ⟨n,h1,by omega,by rw [Function.update_of_ne (by omega),hx]⟩
    · exact ⟨g.remoteDevice.num+1,by omega,Nat.le_refl _,by simp⟩

theorem remoteDeviceAdds_eok {ids : List UInt32} {g : Gateway}
    (hfit : g.remoteDevice.num+ids.length < 256) {x : UInt32} :
    remoteGetKeyValid (ids.foldl (fun g id => remoteDeviceAdd id g) g).remoteDevice x = .eok ↔
      remoteGetKeyValid g.remoteDevice x = .eok ∨ x ∈ ids := by
  induction ids generalizing g with
  | nil => simp
  | cons id ids ih =>
    simp only [List.length_cons] at hfit
    have hone : g.remoteDevice.num+1 < 256 := by omega
    have hnum : (remoteDeviceAdd id g).remoteDevice.num = g.remoteDevice.num+1 :=
      Nat.mod_eq_of_lt hone
    rw [List.foldl_cons,ih (by omega),remoteDeviceAdd_eok hone,List.mem_cons,or_assoc]

theorem localSubdevList_remote (mallocOk : Bool) (packet : List UInt8) (g : Gateway) :
    (localSubdevList mallocOk packet g).remoteDevice = if mallocOk then
      ((readIds packet).foldl (fun g id => remoteDeviceAdd id g) g).remoteDevice
      else g.remoteDevice := by
  unfold localSubdevList readIds
  dsimp only
  split
  · rw [← subdevNodes_eq]
    split
    · exact (syncRequest_still _).remoteDevice
    · rfl
  · exact (syncRequest_still g).remoteDevice

theorem list_mirror_iff {asked : UInt32 → Prop} {v : CloudView}
    (hp : SoundMirror asked v.gateway.remoteDevice v.subdevs) {mallocOk : Bool}
    {packet : List UInt8} (hfit : MirrorFits v (.event (.subdevList mallocOk packet))) :
    SoundMirror asked (localSubdevList mallocOk packet v.gateway).remoteDevice (v.listed packet) ↔
      ListMirrored asked v mallocOk packet := by
  have heok : ∀ x, remoteGetKeyValid (localSubdevList mallocOk packet v.gateway).remoteDevice x =
      .eok ↔ remoteGetKeyValid v.gateway.remoteDevice x = .eok ∨
        (mallocOk = true ∧ x ∈ readIds packet) := by
    intro x
    rw [localSubdevList_remote]
    cases mallocOk with
    | false => simp
    | true =>
      have hlen := length_readIds packet
      have hroom : v.gateway.remoteDevice.num+(packet.getD 1 0).toNat < maxSupport := hfit
      simp only [maxSupport] at hroom
      rw [if_pos rfl,remoteDeviceAdds_eok (by omega)]
      simp
  constructor
  · intro hp'
    refine ⟨fun hok id hid ha => hp' id ha ((heok id).mpr (.inr ⟨hok,hid⟩)),fun _ id ha hm => ?_⟩
    exact hp' id ha ((heok id).mpr (.inl hm))
  · intro hl id ha hm
    rcases (heok id).mp hm with hm | ⟨hok,hid⟩
    · cases hlast : lastPacket packet with
      | true => exact hl.kept hlast id ha hm
      | false =>
        rw [CloudView.listed,hlast]
        exact hp id ha hm
    · exact hl.read hok id hid ha

theorem subdeviceDelete_mirror_iff {asked : UInt32 → Prop} {v : CloudView}
    (hp : SoundMirror asked v.gateway.remoteDevice v.subdevs) (subId : Text) :
    SoundMirror asked (subdeviceDelete subId v.gateway).remoteDevice
      (v.subdevsAfter (subdeviceDelete subId v.gateway) (.subdeviceDelete subId)) ↔
      DeletionMirrored asked v (u32 (atol subId)) := by
  have hqueue := (gatewayDataEnqueue_still v.gateway
    (getBindId v.gateway.globalDevice (u32 (atol subId))) (u32 (atol subId)) 0 6 0).hush
  have hrest : Hush (delDevice (u32 (atol subId)) (gatewayDataEnqueue
      (getBindId v.gateway.globalDevice (u32 (atol subId))) (u32 (atol subId)) 0 6 0 v.gateway)).2
      (subdeviceDelete subId v.gateway) := by
    unfold subdeviceDelete remoteDelete
    dsimp only
    split
    · exact (reportValue_reports _ _ _ _).still.hush.trans (hush_emit rfl _)
    · exact hush_emit rfl _
  have htold := ((hqueue.toTold v.subdevs).trans (delDevice_told (u32 (atol subId)) _ _)).trans
    (hrest.toTold _)
  unfold CloudView.subdevsAfter
  rw [htold.eq,hrest.remoteDevice]
  exact delDevice_sound_iff hp hqueue.remoteDevice (hqueue.valid _)

theorem syncThread_sound {asked : UInt32 → Prop} {g : Gateway} {ids : List UInt32}
    (hp : SoundMirror asked g.remoteDevice ids) : SoundMirror asked (syncThread g).remoteDevice
      (told ids ((syncThread g).cloud.drop g.cloud.length)) := by
  rcases syncThread_still g with hs | ⟨_,hs⟩
  · exact hs.hush.sound hp
  · exact add_sound _ _ (.refl g) hs.hush hp

/-- One event keeps a sound mirror sound exactly when it meets its condition. -/
theorem cloudStep_mirror_iff (asked : UInt32 → Prop) (v : CloudView) (e : CloudEvent)
    (hp : MirrorTruthful asked v) (hfit : MirrorFits v e) :
    MirrorTruthful asked (cloudStep v e) ↔ MirrorKept asked v e := by
  rw [mirrorTruthful_iff_sound] at hp ⊢
  cases e with
  | wifiStatus result =>
    refine iff_of_true ?_ trivial
    unfold cloudStep wifiStatusChange
    dsimp only
    split
    · intro id _ hm
      obtain ⟨n,h1,hn,_⟩ := remoteGetKeyValid_eok.mp hm
      have hnum : n ≤ 0 := hn
      omega
    · exact hp
  | event e =>
    cases e with
    | radio junk rssi buffer len => exact radio_mirror_iff hp junk rssi buffer len
    | subdeviceDelete subId => exact subdeviceDelete_mirror_iff hp subId
    | subdevList mallocOk packet => exact list_mirror_iff hp hfit
    | controlState value subId =>
      exact iff_of_true ((dpDownloadControlStateHandle_still _ value subId).hush.sound hp) trivial
    | syncThread => exact iff_of_true (syncThread_sound hp) trivial
    | syncTimeout => exact iff_of_true ((syncTimeout_still _).hush.sound hp) trivial
    | radioDequeue =>
      have hs : Still v.gateway (step v.gateway .radioDequeue) := .of_silent rfl rfl rfl rfl rfl rfl rfl
      exact iff_of_true (hs.hush.sound hp) trivial

/-- In a run from the empty table and mirror that does not overflow the mirror, the mirror
claims only what the cloud holds, wherever the run is cut off, exactly when every event meets
its condition. `asked` are the ids about which the mirror is asked. -/
theorem mirror_truthful_iff (asked : UInt32 → Prop) (selfId : UInt32) (wifi : WifiState)
    (es : List CloudEvent) (hfit : Along cloudStep MirrorFits (cloudOn selfId wifi) es) :
    AllCuts cloudStep (MirrorTruthful asked) (cloudOn selfId wifi) es ↔
      Along cloudStep (MirrorKept asked) (cloudOn selfId wifi) es := by
  have hempty : MirrorTruthful asked (cloudOn selfId wifi) := by
    rw [mirrorTruthful_iff_sound]
    intro id _ hm
    obtain ⟨n,h1,hn,_⟩ := remoteGetKeyValid_eok.mp hm
    have hnum : n ≤ 0 := hn
    omega
  exact allCuts_iff_along_within (I := fun _ => True) (fun _ _ _ _ => trivial)
    (fun v e _ hp hd => cloudStep_mirror_iff asked v e hp hd) trivial hempty hfit

def oneMainPacket : List UInt8 := [0,1,8,49,48,48,48,48,48,48,49]

/-- The gateway connects, main 10000001 is learned and listed, and the cloud deletes it. -/
def mainDeletedRun : List CloudEvent :=
  [.wifiStatus 4,.event (learnMain '1'),.event (.subdevList true oneMainPacket),
    .event (.subdeviceDelete ['1','0','0','0','0','0','0','1'])]

theorem mainDeletedRun_fits :
    Along cloudStep MirrorFits (cloudOn 40000000 ⟨false,0,false⟩) mainDeletedRun := by
  refine ⟨trivial,trivial,?_,trivial,trivial⟩
  unfold MirrorFits
  decide +kernel

theorem mirror_truthful_main_deleted :
    AllCuts cloudStep (MirrorTruthful (fun id => id ≠ 0)) (cloudOn 40000000 ⟨false,0,false⟩)
      mainDeletedRun := by
  refine (mirror_truthful_iff _ 40000000 _ mainDeletedRun mainDeletedRun_fits).mpr
    ⟨trivial,⟨fun _ ha => absurd rfl ha,fun hs => absurd hs.1 (by decide)⟩,⟨?_,?_⟩,
      fun _ => ⟨fun _ => ⟨by decide,by decide +kernel,?_⟩,fun ha => absurd rfl ha⟩,trivial⟩
  · intro _ id hid _
    have hread : readIds oneMainPacket = [10000001] := by decide +kernel
    rw [hread] at hid
    rw [List.mem_singleton.mp hid]
    decide +kernel
  · intro _ id _ hm
    obtain ⟨n,h1,hn,_⟩ := remoteGetKeyValid_eok.mp hm
    have hnum : n ≤ 0 := hn
    omega
  · intro i j hi1 hin hj1 hjn _ _
    have hi : i ≤ 1 := hin
    have hj : j ≤ 1 := hjn
    omega

/-- The frame in which main 10000001 deletes itself and its devices. -/
def mainUnboundText : Text :=
  ['A','{','0',',','4',',','4','0','0','0','0','0','0','0',',','1','0','0','0','0','0','0','1',',',
    '0',',','1',',','0','}','A']

def mainUnboundRun : List CloudEvent :=
  [.wifiStatus 4,.event (learnMain '1'),.event (.subdevList true oneMainPacket),
    .event (radioText mainUnboundText)]

theorem mirror_counterexample :
    ¬ ∀ (selfId : UInt32) (wifi : WifiState) (es : List CloudEvent),
      Along cloudStep MirrorFits (cloudOn selfId wifi) es →
      AllCuts cloudStep (MirrorTruthful (fun _ => True)) (cloudOn selfId wifi) es := by
  intro hall
  have hfits : Along cloudStep MirrorFits (cloudOn 40000000 ⟨false,0,false⟩) mainUnboundRun := by
    refine ⟨trivial,trivial,?_,trivial,trivial⟩
    unfold MirrorFits
    decide +kernel
  have hend := hall 40000000 ⟨false,0,false⟩ mainUnboundRun hfits mainUnboundRun
    (List.prefix_refl _)
  have hin := hend.sound 10000001 trivial (by decide +kernel)
  exact absurd hin (by decide +kernel)

end GatewayF411
