import GatewayF411.Reboot
import GatewayF411.Registration
import GatewayF411.Stations
import GatewayF411.StoredSlots

set_option autoImplicit false

namespace GatewayF411
open CText SlotScan

/-- Slot `n` is given to the device `x`, bound to `b`; the stored mark is written only when
the slot lies above the mark in memory. -/
structure Placed (x b : UInt32) (n : Nat) (g g' : Gateway) : Prop where
  num : g'.globalDevice.num = max g.globalDevice.num n
  storedNum : storedNum g'.env = if g.globalDevice.num < n then n else storedNum g.env
  id : g'.globalDevice.id = Function.update g.globalDevice.id n x
  bindId : g'.globalDevice.bindId = Function.update g.globalDevice.bindId n b
  storedId : storedId g'.env = Function.update (storedId g.env) n x
  bind : ∀ k, flashGetKeyValue .bind k g'.env = if k = x then b else flashGetKeyValue .bind k g.env

theorem Placed.congr {id b : UInt32} {n : Nat} {g g1 g2 g' : Gateway} (h : Placed id b n g1 g2)
    (hg : FlashKept g g1) (hg' : FlashKept g2 g') : Placed id b n g g' := by
  refine ⟨?_,?_,?_,?_,?_,fun k => ?_⟩
  · rw [hg'.num,h.num,hg.num]
  · rw [hg'.storedNum,h.storedNum,hg.num,hg.storedNum]
  · rw [hg'.id,h.id,hg.id]
  · rw [hg'.bindId,h.bindId,hg.bindId]
  · rw [hg'.storedId,h.storedId,hg.storedId]
  · rw [hg'.storedBind,h.bind,hg.storedBind]

theorem placeDevice_placed {n : Nat} (h1 : 1 ≤ n) (hn : n ≤ 49) (id b : UInt32) (g : Gateway) :
    Placed id b n g (placeDevice n id b (growNum n g)) := by
  have hmark : storedNum (growNum n g).env =
      if g.globalDevice.num < n then n else storedNum g.env := by
    by_cases hlt : g.globalDevice.num < n
    · simp only [growNum,hlt,if_true,storedNum_flashLearnNumsChange g.env hn]
    · simp only [growNum,hlt,if_false]
  have hids : storedId (growNum n g).env = storedId g.env := by
    by_cases hlt : g.globalDevice.num < n <;> simp [growNum,hlt]
  have hbind : ∀ k, flashGetKeyValue .bind k (growNum n g).env = flashGetKeyValue .bind k g.env := by
    intro k
    by_cases hlt : g.globalDevice.num < n <;> simp [growNum,hlt]
  refine ⟨rfl,?_,rfl,rfl,?_,fun k => ?_⟩
  · rw [← hmark]
    simp [placeDevice,flashHeartChange,flashBindChange,flashIdChange]
  · simp only [placeDevice,flashHeartChange,flashBindChange]
    rw [storedId_flashChange _ (by decide),storedId_flashChange _ (by decide),
      storedId_flashIdChange _ h1 hn,hids]
  · rw [← hbind k]
    simp [placeDevice,flashHeartChange,flashBindChange,flashIdChange]

theorem announceDevice_flashKept (pid : Text) (id : UInt32) (g : Gateway) :
    FlashKept g (announceDevice pid id g) :=
  .iteLeft _ ((flashSetUploadFlag_flashKept g id 0).trans (addWiFi_onlyEmits _ _ _).flashKept)

/-- A registration that takes no slot leaves the slots alone. -/
theorem deviceAdd2FlashWifi_flashKept {g : Gateway} {id : UInt32} (h : ¬ Registers g id)
    (b : UInt32) : FlashKept g (deviceAdd2FlashWifi id b g) := by
  rw [deviceAdd2FlashWifi_eq]
  by_cases hr : inRange id = true
  · have hsame : registerDevice id b g = g := by
      by_cases hnew : flashGetKeyValid g.globalDevice id = .error
      · refine registerDevice_full b fun n h1 hn hz => ?_
        exact h ⟨hr,hnew,n,h1,hn,hz⟩
      · rw [registerDevice,if_neg hnew]
    rw [if_pos hr,hsame]
    exact announceDevice_flashKept _ _ g
  · rw [if_neg hr]
    exact .refl g

theorem deviceAdd2FlashWifi_placed {g : Gateway} {id : UInt32} (h : Registers g id) {n : Nat}
    (hn : g.globalDevice.FirstFree n) (b : UInt32) :
    Placed id (if isMain id then 0 else b) n g (deviceAdd2FlashWifi id b g) := by
  rw [deviceAdd2FlashWifi_eq,if_pos h.1]
  refine Placed.congr ?_ (.refl g) (announceDevice_flashKept _ _ _)
  rw [registerDevice,if_pos h.2.1]
  by_cases hm : isMain id = true
  · rw [if_pos hm,if_pos hm,mainAddFlash_snd,addFlash_first hn,if_pos rfl]
    exact (placeDevice_placed hn.pos hn.le id 0 g).congr (.refl g) (addMainNums_flashKept _)
  · rw [if_neg hm,if_neg hm,addFlash_first hn]
    exact placeDevice_placed hn.pos hn.le id b g

theorem Registers.firstFree {g : Gateway} {id : UInt32} (h : Registers g id) :
    ∃ n, g.globalDevice.FirstFree n := by
  rcases getLearnNumsValid_cases g with ⟨_,hfull⟩ | ⟨n,h1,hn,hz,hbelow,_⟩
  · obtain ⟨n,h1,hn,hz⟩ := h.2.2
    exact absurd hz (hfull n h1 hn)
  · exact ⟨n,h1,hn,hz,hbelow⟩

theorem FlashKept.registers_iff {g g' : Gateway} (h : FlashKept g g') {id : UInt32} :
    Registers g' id ↔ Registers g id := by
  have hvalid : flashGetKeyValid g'.globalDevice id = flashGetKeyValid g.globalDevice id := by
    unfold flashGetKeyValid findSlot
    rw [h.num,h.id]
  rw [Registers,Registers,hvalid,h.id]

theorem FlashKept.firstFree_iff {g g' : Gateway} (h : FlashKept g g') {n : Nat} :
    g'.globalDevice.FirstFree n ↔ g.globalDevice.FirstFree n := by
  constructor
  · intro hf
    exact ⟨hf.pos,hf.le,by rw [← h.id]; exact hf.free,by rw [← h.id]; exact hf.below⟩
  · intro hf
    exact ⟨hf.pos,hf.le,by rw [h.id]; exact hf.free,by rw [h.id]; exact hf.below⟩

/-- A call of `Device_Add2Flash_Wifi`: the device, the main it is bound to, and the state. -/
structure Registration where
  id : UInt32
  bind : UInt32
  before : Gateway

instance (g : Gateway) (junk : Message) (buffer : List UInt8) (len : Nat) :
    Decidable (NormalAccepted g junk buffer len) := inferInstanceAs (Decidable (_ ∧ _))

instance (d : DeviceInfo) (m : Message) : Decidable (LearnsAgain d m) :=
  inferInstanceAs (Decidable (_ ∧ _))

def Message.reportsDevice (m : Message) : Prop := m.type = 3 ∨ m.type = 5 ∨ m.type = 6

instance (m : Message) : Decidable m.reportsDevice := inferInstanceAs (Decidable (_ ∨ _))

/-- The registration that an event asks for: a learn frame registers its main once it is
deleted, a sync frame of type 3, 5 or 6 the device it reports. -/
def registering (g : Gateway) : Event → Option Registration
  | .radio junk _ buffer len =>
    let learn := parseNormal (normalFields buffer) junk
    let report := parseSync (gatewayFields buffer) junk
    if NormalAccepted g junk buffer len ∧ LearnsAgain g.globalDevice learn then
      some ⟨u32 learn.fromId,0,(delDevice (u32 learn.fromId) g).2⟩
    else if SyncAccepted g junk buffer len ∧ report.reportsDevice then
      some ⟨u32 report.deviceId,u32 report.fromId,g⟩
    else none
  | _ => none

structure Registration.Takes (r : Registration) (n : Nat) : Prop where
  registers : Registers r.before r.id
  slot : r.before.globalDevice.FirstFree n

/-- What an event does to the slots: it frees some or none of them, or its registration takes
the first free one. -/
inductive SlotEffect (g : Gateway) (e : Event) (g' : Gateway) : Prop where
  | freed (a : UInt32) : (∀ r n, registering g e = some r → ¬ r.Takes n) → Cleared a g g' →
      SlotEffect g e g'
  | taken (a : UInt32) (r : Registration) (n : Nat) : registering g e = some r → r.Takes n →
      Cleared a g r.before → Placed r.id (if isMain r.id then 0 else r.bind) n r.before g' →
      SlotEffect g e g'

theorem SlotEffect.of_none {g g' : Gateway} {e : Event} {a : UInt32}
    (hr : registering g e = none) (h : Cleared a g g') : SlotEffect g e g' := by
  refine .freed a (fun r n hr' => ?_) h
  rw [hr] at hr'
  cases hr'

theorem SlotEffect.of_add {g g1 g' : Gateway} {e : Event} {a : UInt32} {r : Registration}
    (hr : registering g e = some r) (h : Cleared a g r.before) (h1 : FlashKept r.before g1)
    (h' : FlashKept (deviceAdd2FlashWifi r.id r.bind g1) g') : SlotEffect g e g' := by
  by_cases hreg : Registers r.before r.id
  · obtain ⟨n,hn⟩ := hreg.firstFree
    have hp := deviceAdd2FlashWifi_placed (h1.registers_iff.mpr hreg) (h1.firstFree_iff.mpr hn) r.bind
    exact .taken a r n hr ⟨hreg,hn⟩ h (hp.congr h1 h')
  · have hkept := deviceAdd2FlashWifi_flashKept (mt h1.registers_iff.mp hreg) r.bind
    refine .freed a (fun r' n hr' htakes => ?_) (h.before (h1.trans (hkept.trans h')))
    rw [hr] at hr'
    cases hr'
    exact hreg htakes.registers

section
variable {g : Gateway}

theorem syncCommand_cleared (h : g.globalDevice.Inv) {m : Message} (hm : ¬ m.reportsDevice) :
    ∃ a, Cleared a g (syncCommand m g) := by
  unfold syncCommand
  split
  · exact ⟨0,(deviceSeen_flashKept g m).cleared⟩
  · have hlocal := (localDelete_onlyEmits g (u32 m.deviceId)).flashKept
    have hinv : (localDelete (u32 m.deviceId) g).globalDevice.Inv := by
      rw [localDelete_table]
      exact h
    exact ⟨_,.after hlocal (delDevice_cleared hinv _)⟩
  · exact absurd (.inl ‹_›) hm
  · exact ⟨_,delMainBind_cleared h _⟩
  · exact absurd (.inr (.inl ‹_›)) hm
  · exact absurd (.inr (.inr ‹_›)) hm
  · exact ⟨0,(FlashKept.refl g).cleared⟩

theorem syncCommand_registers {m : Message} (hm : m.reportsDevice) :
    ∃ g1, FlashKept g g1 ∧
      FlashKept (deviceAdd2FlashWifi (u32 m.deviceId) (u32 m.fromId) g1) (syncCommand m g) := by
  rcases hm with hm | hm | hm
  · simp only [syncCommand,hm]
    exact ⟨_,syncRefresh_flashKept g,syncOnline_flashKept _ m⟩
  · simp only [syncCommand,hm]
    exact ⟨_,syncRefresh_flashKept g,syncOffline_flashKept _ m⟩
  · simp only [syncCommand,hm]
    exact ⟨_,.refl g,syncOnline_flashKept _ m⟩

variable (junk : Message) (rssi : Int) {buffer : List UInt8} {len : Nat}

theorem deviceLearn_flashKept {m : Message} (hc : m.command = 3)
    (hl : ¬ LearnsAgain g.globalDevice m) : FlashKept g (deviceLearn m g) := by
  unfold deviceLearn
  split
  · exact .refl g
  · rename_i hgate
    split
    · rename_i hrange
      split
      · exact .of_env ⟨rfl,rfl,rfl,rfl⟩ rfl
      · rename_i hdata
        refine absurd ⟨hc,hdata,hrange,?_⟩ hl
        by_contra hno
        exact hgate ⟨fun hv => hno (.inl hv),fun hn => hno (.inr hn)⟩
      · exact .refl g
    · exact .refl g

theorem normalSolve_slotEffect (h : g.globalDevice.Inv) (hacc : NormalAccepted g junk buffer len) :
    SlotEffect g (.radio junk rssi buffer len) (rf433RxCallback junk rssi buffer len g) := by
  have hcall : rf433RxCallback junk rssi buffer len g =
      heartUpload (u32 (parseNormal (normalFields buffer) junk).fromId) 1
        (if (parseNormal (normalFields buffer) junk).command = 3 then
          deviceLearn (parseNormal (normalFields buffer) junk) g else g) := by
    simp only [rf433RxCallback,normalSolve,hacc.1,hacc.2.1,hacc.2.2.1,hacc.2.2.2,and_self,if_true,
      if_false]
  have hsync : ¬ SyncAccepted g junk buffer len := fun hs => by
    have hc := hacc.1.symm.trans hs.1
    simp at hc
  rw [hcall]
  by_cases hl : LearnsAgain g.globalDevice (parseNormal (normalFields buffer) junk)
  · have hr : registering g (.radio junk rssi buffer len) =
        some ⟨u32 (parseNormal (normalFields buffer) junk).fromId,0,
          (delDevice (u32 (parseNormal (normalFields buffer) junk).fromId) g).2⟩ := by
      simp only [registering,hacc,hl,and_self,if_true]
    have hlearn := (deviceLearn_cases g _ hl.1).resolve_left fun hno => hno.1 hl
    rw [if_pos hl.1,hlearn.2]
    exact .of_add hr (delDevice_cleared h _) (.refl _) (heartUpload_flashKept _ _ _)
  · have hr : registering g (.radio junk rssi buffer len) = none := by
      simp only [registering,hl,and_false,if_false,hsync,false_and]
    refine .of_none hr (FlashKept.trans ?_ (heartUpload_flashKept _ _ 1)).cleared
    split
    · exact deviceLearn_flashKept ‹_› hl
    · exact .refl g

theorem gatewaySyncSolve_command (hacc : SyncAccepted g junk buffer len) :
    ∃ g1, FlashKept g g1 ∧ rf433RxCallback junk rssi buffer len g =
      syncCommand (parseSync (gatewayFields buffer) junk) g1 := by
  have hack := ackFrame_flashKept g (parseSync (gatewayFields buffer) junk)
  have hrssi := (mainRssiReport_onlyEmits (ackFrame (parseSync (gatewayFields buffer) junk) g)
    (u32 (parseSync (gatewayFields buffer) junk).fromId) rssi).flashKept
  refine ⟨_,hack.trans (hrssi.trans (heartUpload_flashKept _
    (u32 (parseSync (gatewayFields buffer) junk).fromId) 1)),?_⟩
  simp only [rf433RxCallback,gatewaySyncSolve,hacc.1,hacc.2.1,hacc.2.2.1,hacc.2.2.2,and_self,if_true]

theorem gatewaySyncSolve_slotEffect (h : g.globalDevice.Inv) (hacc : SyncAccepted g junk buffer len) :
    SlotEffect g (.radio junk rssi buffer len) (rf433RxCallback junk rssi buffer len g) := by
  obtain ⟨g1,hg1,hcall⟩ := gatewaySyncSolve_command junk rssi hacc
  have hnormal : ¬ NormalAccepted g junk buffer len := fun hn => by
    have hc := hn.1.symm.trans hacc.1
    simp at hc
  rw [hcall]
  by_cases hm : (parseSync (gatewayFields buffer) junk).reportsDevice
  · have hr : registering g (.radio junk rssi buffer len) =
        some ⟨u32 (parseSync (gatewayFields buffer) junk).deviceId,
          u32 (parseSync (gatewayFields buffer) junk).fromId,g⟩ := by
      simp only [registering,hnormal,hacc,hm,false_and,if_false,and_self,if_true]
    obtain ⟨g2,hg2,hadd⟩ := syncCommand_registers (g := g1) hm
    exact .of_add hr (FlashKept.refl g).cleared (hg1.trans hg2) hadd
  · have hr : registering g (.radio junk rssi buffer len) = none := by
      simp only [registering,hnormal,hm,false_and,and_false,if_false]
    obtain ⟨a,ha⟩ := syncCommand_cleared (h.congr hg1.num hg1.id hg1.bindId) hm
    exact .of_none hr (.after hg1 ha)

theorem rf433RxCallback_slotEffect (h : g.globalDevice.Inv) :
    SlotEffect g (.radio junk rssi buffer len) (rf433RxCallback junk rssi buffer len g) := by
  by_cases hn : NormalAccepted g junk buffer len
  · exact normalSolve_slotEffect junk rssi h hn
  · by_cases hs : SyncAccepted g junk buffer len
    · exact gatewaySyncSolve_slotEffect junk rssi h hs
    · have hr : registering g (.radio junk rssi buffer len) = none := by
        simp only [registering,hn,hs,false_and,if_false]
      refine .of_none hr (FlashKept.cleared ?_)
      rcases rf433RxCallback_cases g junk rssi buffer len with ⟨_,heq⟩ | ⟨hacc,_⟩ | ⟨hacc,_⟩ |
          ⟨hacc,_⟩ | ⟨hacc,_⟩
      · rw [heq]
        exact .refl g
      · exact absurd hacc hn
      · exact absurd hacc hs
      · simp only [rf433RxCallback,gatewayWarningSolve,hacc.1,hacc.2.1,hacc.2.2.1,hacc.2.2.2,and_self,
          if_true]
        exact (ackFrame_flashKept g _).trans <| (heartUpload_flashKept _ _ _).trans <|
          (mainRssiReport_onlyEmits _ _ _).flashKept.trans (warningCommand_flashKept _ _)
      · simp only [rf433RxCallback,gatewayControlSolve,hacc.1,hacc.2.1,hacc.2.2.1,hacc.2.2.2,and_self,
          if_true]
        exact (ackFrame_flashKept g _).trans <| (mainRssiReport_onlyEmits _ _ _).flashKept.trans <|
          (heartUpload_flashKept _ _ _).trans (controlCommand_flashKept _ _)

theorem subdeviceDelete_cleared (h : g.globalDevice.Inv) (subId : Text) :
    ∃ a, Cleared a g (subdeviceDelete subId g) := by
  have hq := gatewayDataEnqueue_flashKept g (getBindId g.globalDevice (u32 (atol subId)))
    (u32 (atol subId)) 0 6 0
  have hdel := delDevice_cleared (h.congr hq.num hq.id hq.bindId) (u32 (atol subId))
  refine ⟨_,.after hq (hdel.before (OnlyEmits.flashKept ?_))⟩
  unfold subdeviceDelete remoteDelete
  dsimp only
  split
  · exact (reportValue_onlyEmits _ _ _ _).trans (.emit _ _)
  · exact .emit _ _

theorem syncThread_flashKept (h : g.globalDevice.Inv) : FlashKept g (syncThread g) := by
  unfold syncThread
  split
  · split <;> exact .of_env ⟨rfl,rfl,rfl,rfl⟩ rfl
  · have hs := syncSettle_flashKept g
    split at hs
    · exact hs
    · rename_i hne
      refine FlashKept.trans (deviceAdd2FlashWifi_flashKept (fun hreg => ?_) 0) hs
      exact (h.fresh_iff hne).mp hreg.2.1 _ rfl
  · exact .of_env (syncWait_sameRegistry g) (syncWait_env g)

/-- Every event frees slots, or takes one, in the table and in the environment alike. -/
theorem step_slotEffect (h : g.globalDevice.Inv) (e : Event) : SlotEffect g e (step g e) := by
  cases e with
  | radio junk rssi buffer len => exact rf433RxCallback_slotEffect junk rssi h
  | subdeviceDelete subId =>
    obtain ⟨a,ha⟩ := subdeviceDelete_cleared h subId
    exact .of_none rfl ha
  | subdevList mallocOk packet =>
    exact .of_none rfl (FlashKept.of_env (.of_table (localSubdevList_table g mallocOk packet))
      (localSubdevList_env g mallocOk packet)).cleared
  | controlState value subId =>
    exact .of_none rfl (dpDownloadControlStateHandle_flashKept g value subId).cleared
  | syncThread => exact .of_none rfl (syncThread_flashKept h).cleared
  | syncTimeout =>
    exact .of_none rfl (FlashKept.of_env (.of_table (syncTimeout_table g)) (syncTimeout_env g)).cleared
  | radioDequeue =>
    have hkept : FlashKept g (step g .radioDequeue) := .of_env ⟨rfl,rfl,rfl,rfl⟩ rfl
    exact .of_none rfl hkept.cleared

end

theorem heartRequest_flashKept (idBuf : Text) (g : Gateway) :
    FlashKept g (heartRequest idBuf g) :=
  (FlashKept.iteLeft _ (flashSetUploadFlag_flashKept g _ _)).trans
    (heartRequest_onlyEmits idBuf g).flashKept

theorem heartOutcome_flashKept (n : Nat) (g : Gateway) : FlashKept g (heartOutcome n g).1 := by
  have hcounts : ∀ retry count g', FlashKept g' (setHeartCounts n retry count g') :=
    fun retry count g' => .of_env (setHeartCounts_sameRegistry n retry count g') rfl
  unfold heartOutcome
  dsimp only
  split
  · exact (hcounts 0 0 g).trans (heartUpload_flashKept _ _ _)
  · split
    · exact hcounts _ _ g
    · split
      · exact hcounts _ _ g
      · exact (flashSetHeart_flashKept g _ _).trans (hcounts _ _ _)

theorem heartThread_flashKept (s : Station) : FlashKept s.gateway (heartThread s).gateway := by
  have hlook : ∀ num, FlashKept s.gateway (heartLook num s).gateway := by
    intro num
    refine .of_env (heartLook_still num s).sameRegistry ?_
    unfold heartLook
    dsimp only
    split <;> rfl
  unfold heartThread
  split
  · exact hlook 1
  · exact hlook _
  · exact heartOutcome_flashKept _ _

/-- What an event of the station does to the slots; the heartbeats do nothing to them. -/
def StationEffect (s : Station) : StationEvent → Gateway → Prop
  | .event e, g' => SlotEffect s.gateway e g'
  | _, g' => FlashKept s.gateway g'

theorem stationStep_effect {s : Station} (h : s.gateway.globalDevice.Inv) (e : StationEvent) :
    StationEffect s e (stationStep s e).gateway := by
  cases e with
  | event e => exact step_slotEffect h e
  | heartRequest idBuf => exact heartRequest_flashKept idBuf s.gateway
  | heartThread => exact heartThread_flashKept s

end GatewayF411
