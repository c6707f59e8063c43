import GatewayF411.Presence
import GatewayF411.Stations

set_option autoImplicit false

namespace GatewayF411
open CText SlotScan Runs

theorem PresenceInv.start {g : Gateway} (h : PresenceInv g) : Truthful g.cloud.length g :=
  ⟨h,Nat.le_refl _,fun id hup => by simp at hup⟩

theorem Truthful.sound {k : Nat} {g : Gateway} (h : Truthful k g) {id : UInt32}
    (hup : deviceUpFrame id ∈ g.cloud.drop k) : g.globalDevice.Online id :=
  h.toPresenceInv.online (h.online id hup)

section HeartCall
variable {k : Nat} {x : UInt32} {g g' : Gateway} (h : Truthful k g)
include h

theorem Truthful.heartCall_one (hc : HeartCall x 1 g g')
    (hx : x = 0 → ¬ g.globalDevice.Raises 0 0) : Truthful k g' := by
  obtain ⟨g1,h1,h2⟩ := hc
  refine ((h.still h1).raise fun h0 => ?_).still h2
  rw [h1.raises_iff]
  exact hx h0

theorem Truthful.heartCall_zero (hc : HeartCall x 0 g g')
    (hspare : ∀ id, deviceUpFrame id ∈ g.cloud.drop k → g.globalDevice.Spares x id) :
    Truthful k g' := by
  obtain ⟨g1,h1,h2⟩ := hc
  obtain ⟨fs,hfs,hr⟩ := h1.cloud
  refine ((h.still h1).lower fun id hup => ?_).still h2
  rw [hfs,List.drop_append_of_le_length h.le] at hup
  have hold := (List.mem_append.mp hup).resolve_right fun hin => report_ne_up (hr _ hin) id rfl
  unfold DeviceInfo.Spares
  rw [h1.id,h1.bindId]
  exact hspare id hold

end HeartCall

theorem HeartCall.raised_only {x id : UInt32} {v : UInt8} {g g' : Gateway} (hc : HeartCall x v g g')
    (hup : deviceUpFrame id ∈ g'.cloud.drop g.cloud.length) : g.globalDevice.Raises x id := by
  obtain ⟨fs,hfs,hups⟩ := hc.ups
  rw [hfs,List.drop_left] at hup
  exact (hups id hup).2

theorem HeartCall.raises_zero {x : UInt32} {g g' : Gateway} (hc : HeartCall x 1 g g')
    (h : PresenceInv g) (hr : g'.globalDevice.Raises 0 0) : g.globalDevice.Raises 0 0 := by
  have hheart := hc.heart h.hearts
  rw [if_neg (by decide)] at hheart
  have hnum := hc.sameRegistry.num
  have hid := hc.sameRegistry.id
  have hbind := hc.sameRegistry.bindId
  have hslot := hc.slots 0
  obtain ⟨hvalid,hzero,j,hj1,hjn,hjb,hj,hjid⟩ := hr
  rw [flashGetKeyValid,hslot] at hvalid
  cases hs : findSlot g.globalDevice 0 with
  | none => simp [hs] at hvalid
  | some s =>
    rw [flashGetHeart,slotValue,hslot,hs] at hzero
    simp only [hheart,DeviceInfo.heartSet] at hzero hj
    have hxs : findSlot g.globalDevice x ≠ some s := by
      intro hx
      rw [if_pos hx] at hzero
      cases hzero
    rw [if_neg hxs] at hzero
    have hxj : findSlot g.globalDevice x ≠ some j := by
      intro hx
      have hx0 : x = 0 := by rw [← (findSlot_sound hx).2.2,← hid,hjid]
      rw [hx0] at hxs
      exact hxs hs
    rw [if_neg hxj] at hj
    refine ⟨by simp [flashGetKeyValid,hs],by rw [flashGetHeart,slotValue,hs]; exact hzero,
      j,hj1,by omega,by rw [← hbind]; exact hjb,hj,by rw [← hid]; exact hjid⟩

theorem DeviceInfo.Raises.spares {d : DeviceInfo} (h : d.Inv) {x y id : UInt32}
    (hr : d.Raises x id) (hspared : d.RaisedSpared x y) : d.Spares y id := by
  obtain ⟨hne,hfrom⟩ := hspared id hr
  obtain ⟨_,_,j,_,_,hbind,_,hid⟩ := hr
  refine ⟨hne,fun hs n hn => ?_⟩
  have hnj : n = j := by
    refine h.keyed.distinct n j (by rw [hn]; exact hs.ne_zero) ?_
    rw [hn,hid]
  rw [hnj,hbind]
  exact hfrom hs

/-- The device has a slot, or finds one, and as a slave or door an online main. -/
def DeviceInfo.Ready (d : DeviceInfo) (id fromId : UInt32) : Prop :=
  (∃ n, d.id n = id ∧ (IsSub id → ∃ m, d.id m = d.bindId n ∧ d.heart m = 1)) ∨
  (flashGetKeyValid d id = .error ∧ inRange id = true ∧ (∃ n, 1 ≤ n ∧ n ≤ 49 ∧ d.id n = 0) ∧
    (IsSub id → fromId ≠ 0 ∧ ∃ m, d.id m = fromId ∧ d.heart m = 1))

theorem add_ready {g : Gateway} (h : PresenceInv g) {id b : UInt32} (hne : id ≠ 0)
    (hr : g.globalDevice.Ready id b) :
    ∃ n, (deviceAdd2FlashWifi id b g).globalDevice.id n = id ∧
      (IsSub id → ∃ m, (deviceAdd2FlashWifi id b g).globalDevice.id m =
          (deviceAdd2FlashWifi id b g).globalDevice.bindId n ∧
        (deviceAdd2FlashWifi id b g).globalDevice.heart m = 1) := by
  rcases deviceAdd2FlashWifi_columns id b g with ⟨hid,hbind,hheart,hfull⟩ |
    ⟨n,hz,_,hnew,hid,hbind,hheart⟩
  · rw [hid,hbind,hheart]
    rcases hr with hslot | ⟨hnew,hrange,⟨n,h1,hn,hz⟩,_⟩
    · exact hslot
    · exact absurd hz (hfull hrange hnew n h1 hn)
  · rw [hid,hbind,hheart]
    rcases hr with ⟨j,hj,_⟩ | ⟨_,_,_,hmain⟩
    · exact absurd hj ((h.inv.fresh_iff hne).mp hnew j)
    · refine ⟨n,by rw [Function.update_self],fun hs => ?_⟩
      obtain ⟨hb,m,hm,hone⟩ := hmain hs
      have hmn : m ≠ n := by
        rintro rfl
        exact hb (hm.symm.trans hz)
      refine ⟨m,?_,by rw [Function.update_of_ne hmn,hone]⟩
      rw [Function.update_of_ne hmn,Function.update_self,
        if_neg (sub_not_main (isSub_iff.mp hs)),hm]

theorem syncOnline_truthful {k : Nat} {g : Gateway} (h : Truthful k g) {m : Message}
    (hne : u32 m.deviceId ≠ 0) (hr : g.globalDevice.Ready (u32 m.deviceId) (u32 m.fromId)) :
    Truthful k (syncOnline m g) := by
  have hadd : Truthful k (deviceAdd2FlashWifi (u32 m.deviceId) (u32 m.fromId) g) := by
    refine h.add fun hs hnew => ?_
    rcases hr with ⟨n,hn,_⟩ | ⟨_,_,_,hmain⟩
    · exact absurd hn ((h.inv.fresh_iff hne).mp hnew n)
    · exact (hmain hs).1
  have hraise := hadd.raise fun h0 => absurd h0 hne
  refine (hraise.up ?_).still (syncOnline_heartCall g m)
  obtain ⟨n,hn,hsub⟩ := add_ready h.toPresenceInv hne hr
  generalize deviceAdd2FlashWifi (u32 m.deviceId) (u32 m.fromId) g = g1 at *
  have hq := flashSetHeart_quiet g1 (u32 m.deviceId) 1
  have hheart := flashSetHeart_heart hadd.hearts (u32 m.deviceId) 1
  rw [if_neg (by decide)] at hheart
  unfold DeviceInfo.OnlineSlot
  rw [hq.id,hq.bindId,hheart]
  refine ⟨hne,n,hn,?_,fun hs => ?_⟩
  · have hslot : findSlot g1.globalDevice (u32 m.deviceId) = some n := by
      rw [← hn]
      exact hadd.inv.findSlot_id (by rw [hn]; exact hne)
    simp [DeviceInfo.heartSet,hslot]
  · obtain ⟨j,hj,hone⟩ := hsub hs
    exact ⟨j,hj,DeviceInfo.heartSet_one hone⟩

theorem syncOffline_truthful {k : Nat} {g : Gateway} (h : Truthful k g) {m : Message}
    (hb : IsSub (u32 m.deviceId) → flashGetKeyValid g.globalDevice (u32 m.deviceId) = .error →
      u32 m.fromId ≠ 0)
    (hspare : ∀ id, deviceUpFrame id ∈ g.cloud.drop k →
      g.globalDevice.Spares (u32 m.deviceId) id) : Truthful k (syncOffline m g) := by
  refine (h.add hb).heartCall_zero (syncOffline_heartCall g m) fun id hup => ?_
  obtain ⟨hne,hbound⟩ := hspare id (deviceAdd2FlashWifi_ups h.le hup)
  refine ⟨hne,fun hs n => ?_⟩
  rcases deviceAdd2FlashWifi_columns (u32 m.deviceId) (u32 m.fromId) g with ⟨hid,hbind,_⟩ |
    ⟨j,_,_,_,hid,hbind,_⟩
  · rw [hid,hbind]
    exact hbound hs n
  · rw [hid,hbind]
    by_cases hn : n = j
    · rw [hn,Function.update_self]
      exact fun heq => absurd heq.symm hne
    · rw [Function.update_of_ne hn,Function.update_of_ne hn]
      exact hbound hs n

theorem HeartCall.ready {fromId id : UInt32} {g g' : Gateway} (hc : HeartCall fromId 1 g g')
    (h : PresenceInv g) (hvalid : flashGetKeyValid g.globalDevice fromId = .eok)
    (ha : g.globalDevice.UpAllowed id fromId)
    (hb : IsSub id → flashGetKeyValid g.globalDevice id = .error → fromId ≠ 0) :
    g'.globalDevice.Ready id fromId := by
  have hheart := hc.heart h.hearts
  rw [if_neg (by decide)] at hheart
  obtain ⟨hne,ha⟩ := ha
  have hfrom : ∃ s, g'.globalDevice.id s = fromId ∧ g'.globalDevice.heart s = 1 := by
    cases hs : findSlot g.globalDevice fromId with
    | none =>
      rw [findSlot_eq_none,hvalid] at hs
      cases hs
    | some s =>
      refine ⟨s,by rw [hc.sameRegistry.id]; exact (findSlot_sound hs).2.2,?_⟩
      simp [hheart,DeviceInfo.heartSet,hs]
  rcases ha with ⟨hreg,hmain⟩ | ⟨hnew,hrange,hfree⟩
  · obtain ⟨n,hn⟩ := (h.inv.valid_iff hne).mp hreg
    refine .inl ⟨n,by rw [hc.sameRegistry.id,hn],fun hs => ?_⟩
    have hbind : getBindId g.globalDevice id = g.globalDevice.bindId n := by
      rw [← hn,getBindId,h.inv.slotValue_id (by rw [hn]; exact hne)]
    rw [hc.sameRegistry.bindId,← hbind]
    rcases hmain hs with heq | hone
    · rw [heq]
      exact hfrom
    · obtain ⟨m,hm,hval⟩ := flashGetHeart_one hone
      exact ⟨m,by rw [hc.sameRegistry.id,hm],by rw [hheart]; exact DeviceInfo.heartSet_one hval⟩
  · refine .inr ⟨?_,hrange,?_,fun hs => ⟨hb hs hnew,hfrom⟩⟩
    · rw [flashGetKeyValid,hc.slots]
      exact hnew
    · rw [hc.sameRegistry.id]
      exact hfree

section Radio
variable {g g1 : Gateway} (h : PresenceInv g)
include h

theorem syncCommand_truthful {m : Message} (hc : HeartCall (u32 m.fromId) 1 g g1)
    (hvalid : flashGetKeyValid g.globalDevice (u32 m.fromId) = .eok)
    (hkept : SyncKept g.globalDevice m) : Truthful g.cloud.length (syncCommand m g1) := by
  have h1 := h.start.heartCall_one hc fun h0 => hkept.zero (.inl h0)
  have hrefresh := syncRefresh_still g1
  have hspare : m.type = 2 ∨ m.type = 5 → ∀ id, deviceUpFrame id ∈ g1.cloud.drop g.cloud.length →
      g1.globalDevice.Spares (u32 m.deviceId) id := by
    intro ht id hup
    have hs := (hc.raised_only hup).spares h.inv (hkept.spared ht)
    unfold DeviceInfo.Spares
    rw [hc.sameRegistry.id,hc.sameRegistry.bindId]
    exact hs
  have hready : m.type = 3 ∨ m.type = 6 →
      g1.globalDevice.Ready (u32 m.deviceId) (u32 m.fromId) := by
    intro ht
    refine hc.ready h hvalid (hkept.allowed ht) fun hs hnew => hkept.bound ?_ hs hnew
    rcases ht with ht | ht
    · exact .inl ht
    · exact .inr (.inr ht)
  unfold syncCommand
  split
  · rename_i ht
    refine h1.heartCall_one (deviceSeen_heartCall g1 m) fun h0 hr => ?_
    exact hkept.zero (.inr ⟨ht,h0⟩) (hc.raises_zero h hr)
  · rename_i ht
    refine (h1.localDelete _).delDevice fun id hup => ?_
    rw [localDelete_table]
    exact hspare (.inl ht) id (localDelete_ups h1.le hup)
  · rename_i ht
    refine syncOnline_truthful (h1.still hrefresh) (hkept.allowed (.inl ht)).1 ?_
    have hr := hready (.inl ht)
    unfold DeviceInfo.Ready flashGetKeyValid at hr ⊢
    rw [hrefresh.id,hrefresh.bindId,hrefresh.heart,hrefresh.slots]
    exact hr
  · rename_i ht
    exact h1.delMainBind fun id hup => hkept.dropped ht id (hc.raised_only hup)
  · rename_i ht
    refine syncOffline_truthful (h1.still hrefresh) (fun hs hnew => ?_) fun id hup => ?_
    · refine hkept.bound (.inr (.inl ht)) hs ?_
      rw [flashGetKeyValid,hrefresh.slots,hc.slots] at hnew
      exact hnew
    · rw [syncRefresh_cloud] at hup
      have hs := hspare (.inr ht) id hup
      unfold DeviceInfo.Spares
      rw [hrefresh.id,hrefresh.bindId]
      exact hs
  · rename_i ht
    exact syncOnline_truthful h1 (hkept.allowed (.inr ht)).1 (hready (.inr ht))
  · exact h1

theorem warningCommand_truthful {m : Message} (hc : HeartCall (u32 m.fromId) 1 g g1)
    (hkept : WarningKept g.globalDevice m) : Truthful g.cloud.length (warningCommand m g1) := by
  have h1 := h.start.heartCall_one hc fun h0 => hkept.zero (.inl h0)
  rcases warningCommand_heartCall g1 m with hs | ⟨ht,hcall⟩ | ⟨ht,hcall⟩
  · exact h1.still hs
  · refine h1.heartCall_zero hcall fun id hup => ?_
    have hs := (hc.raised_only hup).spares h.inv (hkept.spared ht)
    unfold DeviceInfo.Spares
    rw [hc.sameRegistry.id,hc.sameRegistry.bindId]
    exact hs
  · refine h1.heartCall_one hcall fun h0 hr => ?_
    exact hkept.zero (.inr ⟨ht,h0⟩) (hc.raises_zero h hr)

theorem controlCommand_truthful {m : Message} (hc : HeartCall (u32 m.fromId) 1 g g1)
    (hkept : ControlKept g.globalDevice m) : Truthful g.cloud.length (controlCommand m g1) := by
  have h1 := h.start.heartCall_one hc fun h0 => hkept (.inl h0)
  rcases controlCommand_heartCall g1 m with hs | ⟨ht,hcall⟩
  · exact h1.still hs
  · refine h1.heartCall_one hcall fun h0 hr => ?_
    exact hkept (.inr ⟨ht,h0⟩) (hc.raises_zero h hr)

theorem deviceLearn_truthful {m : Message} (hcmd : m.command = 3) :
    Truthful g.cloud.length (deviceLearn m g) ∧
    (u32 m.fromId = 0 → (deviceLearn m g).globalDevice.Raises 0 0 → g.globalDevice.Raises 0 0) := by
  rcases deviceLearn_cases g m hcmd with ⟨_,hs⟩ | ⟨hl,heq⟩
  · exact ⟨h.start.still hs,fun _ hr => (hs.raises_iff 0 0).mp hr⟩
  · have hm := isMain_of_int hl.2.2.1
    rw [heq]
    refine ⟨?_,fun h0 => absurd h0 (isMain_ne_zero hm)⟩
    have hdel : Truthful g.cloud.length (delDevice (u32 m.fromId) g).2 :=
      h.start.delDevice fun id hup => by simp at hup
    exact hdel.add fun hs => absurd hm (sub_not_main (isSub_iff.mp hs))

theorem radio_truthful (junk : Message) (rssi : Int) (buffer : List UInt8) (len : Nat)
    (hkept : RadioKept g junk buffer len) :
    Truthful g.cloud.length (rf433RxCallback junk rssi buffer len g) := by
  rcases rf433RxCallback_cases g junk rssi buffer len with ⟨_,heq⟩ | ⟨hacc,hc⟩ |
    ⟨hacc,g1,hc,heq⟩ | ⟨hacc,g1,hc,heq⟩ | ⟨hacc,g1,hc,heq⟩
  · rw [heq]
    exact h.start
  · split at hc
    · rename_i hcmd
      obtain ⟨hl,hzero⟩ := deviceLearn_truthful h hcmd
      exact hl.heartCall_one hc fun h0 hr => hkept.normal hacc h0 (hzero h0 hr)
    · exact h.start.heartCall_one hc (hkept.normal hacc)
  · rw [heq]
    exact syncCommand_truthful h hc hacc.2.2.2 (hkept.sync hacc)
  · rw [heq]
    exact warningCommand_truthful h hc (hkept.warning hacc)
  · rw [heq]
    exact controlCommand_truthful h hc (hkept.control hacc)

end Radio

section Station
variable {g : Gateway} (h : PresenceInv g)
include h

theorem subdeviceDelete_truthful (subId : Text) :
    Truthful g.cloud.length (subdeviceDelete subId g) := by
  have hqueue := h.start.still (gatewayDataEnqueue_still g
    (getBindId g.globalDevice (u32 (atol subId))) (u32 (atol subId)) 0 6 0)
  have hdel := hqueue.delDevice (x := u32 (atol subId)) fun id hup => by
    simp [gatewayDataEnqueue] at hup
  have hack : ∀ g', Truthful g.cloud.length g' →
      Truthful g.cloud.length (g'.emit .subdeviceDeleteAck) := by
    intro g' hg'
    exact hg'.calm rfl rfl rfl rfl rfl fun id hin => by simp [deviceUpFrame] at hin
  unfold subdeviceDelete remoteDelete
  dsimp only
  split
  · exact hack _ (hdel.still (reportValue_reports _ _ _ _).still)
  · exact hack _ hdel

theorem syncThread_truthful : Truthful g.cloud.length (syncThread g) := by
  rcases syncThread_still g with hs | ⟨hne,hs⟩
  · exact h.start.still hs
  · refine (h.start.add fun _ hnew => ?_).still hs
    exact absurd rfl ((h.inv.fresh_iff hne).mp hnew g.sync.counter)

theorem step_truthful (e : Event) (hkept : EventKept g e) :
    Truthful g.cloud.length (step g e) := by
  cases e with
  | radio junk rssi buffer len => exact radio_truthful h junk rssi buffer len hkept
  | subdeviceDelete subId => exact subdeviceDelete_truthful h subId
  | subdevList mallocOk packet =>
    obtain ⟨r,hr⟩ := localSubdevList_still mallocOk packet g
    refine Truthful.still ?_ hr
    exact h.start.calm rfl rfl rfl rfl (List.append_nil _).symm (by simp)
  | controlState value subId => exact h.start.still (dpDownloadControlStateHandle_still g value subId)
  | syncThread => exact syncThread_truthful h
  | syncTimeout => exact h.start.still (syncTimeout_still g)
  | radioDequeue => exact h.start.still (.of_silent rfl rfl rfl rfl rfl rfl rfl)

theorem onlineSlot_of_heart {id : UInt32} (hne : id ≠ 0) (hid : flashGetHeart g.globalDevice id ≠ 0)
    (hmain : IsSub id →
      flashGetHeart g.globalDevice (getBindId g.globalDevice id) ≠ 0) :
    g.globalDevice.OnlineSlot id := by
  obtain ⟨n,rfl,hone⟩ := flashGetHeart_one (h.hearts.heart_one hid)
  refine ⟨hne,n,rfl,hone,fun hs => ?_⟩
  have hm := flashGetHeart_one (h.hearts.heart_one (hmain hs))
  rw [getBindId,h.inv.slotValue_id hne] at hm
  exact hm

end Station

theorem Truthful.down {k : Nat} {g : Gateway} (h : Truthful k g) (x : UInt32) :
    Truthful k (deviceDown x g) :=
  h.calm rfl rfl rfl rfl rfl fun id hin => by simp [deviceUpFrame] at hin

section Station
variable {g : Gateway} (h : PresenceInv g)
include h

theorem heartRequest_truthful (idBuf : Text)
    (hkept : u32 (atol idBuf) = 0 → flashGetHeart g.globalDevice 0 = 0) :
    Truthful g.cloud.length (heartRequest idBuf g) := by
  have hs := selfBindUpload_still (u32 (atol idBuf)) g
  have hg := h.start.still hs
  have hzero : flashGetHeart (selfBindUpload (u32 (atol idBuf)) g).globalDevice 0 =
      flashGetHeart g.globalDevice 0 := by
    simp only [flashGetHeart,slotValue,hs.slots,hs.heart]
  unfold heartRequest
  dsimp only
  generalize selfBindUpload (u32 (atol idBuf)) g = g1 at hg hzero ⊢
  generalize u32 (atol idBuf) = id at hkept ⊢
  split
  · rename_i hsub
    split
    · rename_i hmain
      split
      · rename_i hheart
        exact hg.up (onlineSlot_of_heart hg.toPresenceInv (IsSub.ne_zero hsub) hheart fun _ => hmain)
      · exact hg.down id
    · exact hg
  · rename_i hsub
    split
    · rename_i hheart
      refine hg.up (onlineSlot_of_heart hg.toPresenceInv ?_ hheart fun hs => absurd hs hsub)
      rintro rfl
      exact hheart (hzero.trans (hkept rfl))
    · exact hg.down id

theorem heartOutcome_truthful (n : Nat)
    (hkept : g.globalDevice.heartRecv n ≠ 0 → g.globalDevice.id n = 0 →
      ¬ g.globalDevice.Raises 0 0) : Truthful g.cloud.length (heartOutcome n g).1 := by
  have hcounts : ∀ g' r c, Still g' (setHeartCounts n r c g') :=
    fun g' r c => .of_silent rfl rfl rfl rfl rfl rfl rfl
  unfold heartOutcome
  dsimp only
  split
  · rename_i hrecv
    exact h.start.heartCall_one ((hcounts g 0 0).heartCall (heartUpload_heartCall _ _ _))
      (hkept hrecv)
  · split
    · exact h.start.still (hcounts g _ _)
    · split
      · exact h.start.still (hcounts g _ _)
      · refine h.start.heartCall_zero
          ((flashSetHeart_heartCall g (g.globalDevice.id n) 0).still (hcounts _ 0 0)) fun id hup => ?_
        simp at hup

end Station

theorem stationStep_truthful (s : Station) (e : StationEvent) (h : PresenceInv s.gateway)
    (hkept : PresenceKept s e) : Truthful s.gateway.cloud.length (stationStep s e).gateway := by
  cases e with
  | event e => exact step_truthful h e hkept
  | heartRequest idBuf => exact heartRequest_truthful h idBuf hkept
  | heartThread =>
    unfold stationStep heartThread
    dsimp only
    split
    · exact h.start.still (heartLook_still 1 s)
    · exact h.start.still (heartLook_still _ s)
    · rename_i hpc
      exact heartOutcome_truthful h s.heart.num (hkept hpc)

theorem stationOn_presenceInv (selfId : UInt32) : PresenceInv (stationOn selfId).gateway := by
  refine ⟨powerOn_registryInv selfId,⟨fun _ => .inl rfl,fun n hs => ?_⟩⟩
  exact absurd rfl hs.ne_zero

/-- In every run of radio frames, cloud commands, heartbeat checks and heartbeat outcomes
whose events meet their conditions, every online report is true when its event is done. -/
theorem presence_sound (selfId : UInt32) (es : List StationEvent)
    (h : Along stationStep PresenceKept (stationOn selfId) es) :
    Along stationStep PresenceSound (stationOn selfId) es := by
  refine Along.imp (fun s => PresenceInv s.gateway) (fun s e hs hc => ?_) (fun s e hs hc => ?_)
    (stationOn_presenceInv selfId) h
  · exact (stationStep_truthful s e hs hc).toPresenceInv
  · exact fun id hup => (stationStep_truthful s e hs hc).sound hup

/-- Main 10000001 is learned and reports a slave, about which the cloud then asks. -/
def slavePresentRun : List StationEvent :=
  [.event (learnMain '1'),.event (radioText slaveOnlineText),
    .heartRequest ['2','0','0','0','0','0','0','1']]

theorem slavePresentRun_kept : Along stationStep PresenceKept (stationOn 40000000) slavePresentRun := by
  refine ⟨⟨fun _ h0 => absurd h0 (by decide),fun hacc => absurd hacc.1 (by decide),
    fun hacc => absurd hacc.1 (by decide),fun hacc => absurd hacc.1 (by decide)⟩,
    ⟨fun hacc => absurd hacc.1 (by decide),fun _ => ⟨?_,?_,?_,?_,?_⟩,
    fun hacc => absurd hacc.1 (by decide),fun hacc => absurd hacc.1 (by decide)⟩,
    fun h0 => absurd h0 (by decide),trivial⟩
  · exact fun h0 => absurd h0 (by decide)
  · exact fun ht => absurd ht (by decide)
  · exact fun ht => absurd ht (by decide)
  · exact fun _ => ⟨by decide,.inr ⟨by decide,by decide,2,by decide,by decide,by decide⟩⟩
  · exact fun _ _ _ => by decide

theorem presence_sound_slave : Along stationStep PresenceSound (stationOn 40000000) slavePresentRun :=
  presence_sound 40000000 slavePresentRun slavePresentRun_kept

/-- The frame in which main 10000001 reports its own deletion. -/
def mainGoneText : Text :=
  ['A','{','0',',','2',',','4','0','0','0','0','0','0','0',',','1','0','0','0','0','0','0','1',',',
    '1','0','0','0','0','0','0','1',',','1',',','0','}','A']

/-- Main 10000002 reports the slave of main 10000001. -/
def slaveOfOtherText : Text :=
  ['A','{','0',',','6',',','4','0','0','0','0','0','0','0',',','1','0','0','0','0','0','0','2',',',
    '2','0','0','0','0','0','0','1',',','1',',','0','}','A']

/-- A slave whose main is gone is heard by another main. -/
def strangerRun : List StationEvent :=
  [.event (learnMain '1'),.event (learnMain '2'),.event (radioText slaveOnlineText),
    .event (radioText mainGoneText),.event (radioText slaveOfOtherText)]

theorem presence_counterexample :
    ¬ ∀ (selfId : UInt32) (es : List StationEvent),
      Along stationStep PresenceSound (stationOn selfId) es := by
  intro hall
  have hlast := (hall 40000000 strangerRun).2.2.2.2.1
  have honline := hlast 20000001 (by decide +kernel)
  exact absurd (honline.2.2 (by decide)) (by decide +kernel)

end GatewayF411
