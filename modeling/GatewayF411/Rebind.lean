import GatewayF411.Presence
import GatewayF411.SlotEffect

set_option autoImplicit false

namespace GatewayF411
open CText SlotScan Runs

/-- Mark, ids and bindings stand in the environment as they stand in the table. -/
structure SlotsStored (g : Gateway) : Prop where
  num : storedNum g.env = g.globalDevice.num
  ids : storedId g.env = g.globalDevice.id
  bind : ∀ n, g.globalDevice.id n ≠ 0 →
    flashGetKeyValue .bind (g.globalDevice.id n) g.env = g.globalDevice.bindId n

theorem FlashKept.slotsStored {g g' : Gateway} (h : FlashKept g g') (hs : SlotsStored g) :
    SlotsStored g' := by
  refine ⟨?_,?_,fun n hn => ?_⟩
  · rw [h.storedNum,h.num,hs.num]
  · rw [h.storedId,h.id,hs.ids]
  · rw [h.id] at hn
    rw [h.storedBind,h.id,h.bindId,hs.bind n hn]

theorem Cleared.slotsStored {a : UInt32} {g g' : Gateway} (h : Cleared a g g')
    (hs : SlotsStored g) : SlotsStored g' := by
  refine ⟨?_,?_,fun n hn => ?_⟩
  · rw [h.storedNum,h.num,hs.num]
  · funext n
    rcases h.slots n with ⟨hid,_,hstored⟩ | ⟨hid,_,hstored⟩
    · rw [hstored,hid,hs.ids]
    · rw [hstored,hid]
  · rcases h.slots n with ⟨hid,hbind,_⟩ | ⟨hid,_,_⟩
    · rw [h.bind_kept hn,hbind,hid]
      rw [hid] at hn
      exact hs.bind n hn
    · exact absurd hid hn

theorem Placed.slotsStored {x b : UInt32} {n : Nat} {g g' : Gateway} (h : Placed x b n g g')
    (hfresh : ∀ j, g.globalDevice.id j ≠ x) (hs : SlotsStored g) : SlotsStored g' := by
  refine ⟨?_,?_,fun j hj => ?_⟩
  · rw [h.storedNum,h.num,hs.num]
    split <;> omega
  · rw [h.storedId,h.id,hs.ids]
  · rw [h.bind,h.bindId,h.id]
    rw [h.id] at hj
    by_cases hjn : j = n
    · rw [hjn,Function.update_self,Function.update_self,if_pos rfl]
    · rw [Function.update_of_ne hjn] at hj ⊢
      rw [Function.update_of_ne hjn,if_neg (hfresh j),hs.bind j hj]

theorem registering_before {g : Gateway} {e : Event} {r : Registration}
    (h : registering g e = some r) : r.before = g ∨ r.before = (delDevice r.id g).2 := by
  unfold registering at h
  split at h
  · dsimp only at h
    split at h
    · cases h
      exact .inr rfl
    · split at h
      · cases h
        exact .inl rfl
      · cases h
  · cases h

theorem registering_edits {g : Gateway} {e : Event} {r : Registration}
    (h : registering g e = some r) : Edits g r.before := by
  rcases registering_before h with hb | hb
  · rw [hb]
    exact .refl g
  · rw [hb]
    exact .delDevice _ g

theorem Registration.Takes.fresh {r : Registration} {n : Nat} (h : r.Takes n)
    (hinv : r.before.globalDevice.Inv) (j : Nat) : r.before.globalDevice.id j ≠ r.id :=
  (hinv.fresh_iff (inRange_ne_zero h.registers.1)).mp h.registers.2.1 j

theorem stationStep_slotsStored {s : Station} (h : WellKept s.gateway)
    (hs : SlotsStored s.gateway) (e : StationEvent) : SlotsStored (stationStep s e).gateway := by
  have he := stationStep_effect h.inv e
  cases e with
  | event e =>
    cases he with
    | freed a _ hc => exact hc.slotsStored hs
    | taken a r n hr ht hc hp =>
      have hinv := (h.edits (registering_edits hr)).inv
      exact hp.slotsStored (ht.fresh hinv) (hc.slotsStored hs)
  | heartRequest idBuf => exact FlashKept.slotsStored he hs
  | heartThread => exact FlashKept.slotsStored he hs

/-- In every state of a station the slots stand in flash as they stand in memory. -/
theorem station_slotsStored (selfId : UInt32) (es : List StationEvent) :
    SlotsStored (es.foldl stationStep (stationOn selfId)).gateway := by
  have hboth : WellKept (es.foldl stationStep (stationOn selfId)).gateway ∧
      SlotsStored (es.foldl stationStep (stationOn selfId)).gateway := by
    refine foldl_inv (fun s : Station => WellKept s.gateway ∧ SlotsStored s.gateway)
      (fun s e h => ⟨h.1.edits (stationStep_edits s e),stationStep_slotsStored h.1 h.2 e⟩) es
      ⟨powerOn_wellKept selfId,rfl,?_,fun n hn => absurd rfl hn⟩
    funext n
    simp [stationOn,powerOn,storedId,flashGetKeyValue,readValue,efGetEnvBlob,loadDevice2Memory,
      loadSlots,flashGetLearnNums,DeviceInfo.zero]
  exact hboth.2

theorem SlotsStored.load_getBindId {g : Gateway} (hs : SlotsStored g) (hinv : g.globalDevice.Inv)
    {id : UInt32} (hid : id ≠ 0) :
    getBindId (loadDevice2Memory g.env) id = getBindId g.globalDevice id := by
  have henv : EnvOk g.env :=
    ⟨by rw [hs.num]; exact hinv.num_le,by rw [hs.num,hs.ids]; exact hinv.keyed⟩
  have hfind : findSlot (loadDevice2Memory g.env) id = findSlot g.globalDevice id := by
    unfold findSlot
    rw [loadDevice2Memory_num,henv.load_id,hs.num,hs.ids]
  unfold getBindId slotValue
  rw [hfind]
  cases hf : findSlot g.globalDevice id with
  | none => rfl
  | some n =>
    obtain ⟨h1,hn,hidn⟩ := findSlot_sound hf
    have hne : g.globalDevice.id n ≠ 0 := by
      rw [hidn]
      exact hid
    have hload := (loadDevice2Memory_slot g.env ⟨h1,by rw [hs.num]; exact hn⟩).bindId
    rw [henv.load_id,hs.ids,if_neg hne,hs.bind n hne] at hload
    exact hload

/-- The frame is a report of a slave or door by a registered main, and the device is known or
a slot is free. -/
structure PairingReport (g : Gateway) (junk : Message) (buffer : List UInt8) (len : Nat) : Prop where
  accepted : SyncAccepted g junk buffer len
  type : (parseSync (gatewayFields buffer) junk).reportsDevice
  main : isMain (u32 (parseSync (gatewayFields buffer) junk).fromId) = true
  sub : IsSub (u32 (parseSync (gatewayFields buffer) junk).deviceId)
  room : ¬ g.globalDevice.Full ∨
    g.globalDevice.Registered (u32 (parseSync (gatewayFields buffer) junk).deviceId)

theorem Placed.getBindId {x b : UInt32} {n : Nat} {g g' : Gateway} (h : Placed x b n g g')
    (hinv : g'.globalDevice.Inv) (hx : x ≠ 0) : getBindId g'.globalDevice x = b := by
  have hid : g'.globalDevice.id n = x := by rw [h.id,Function.update_self]
  have hb := hinv.slotValue_id (n := n) (by rw [hid]; exact hx) g'.globalDevice.bindId 0
  rw [hid,h.bindId,Function.update_self] at hb
  unfold GatewayF411.getBindId
  rw [h.bindId,hb]

theorem FlashKept.getBindId {g g' : Gateway} (h : FlashKept g g') (id : UInt32) :
    getBindId g'.globalDevice id = getBindId g.globalDevice id := by
  unfold GatewayF411.getBindId slotValue findSlot
  rw [h.num,h.id,h.bindId]

theorem add_getBindId_iff {g g1 g' : Gateway} {id b : UInt32} (hinv : g'.globalDevice.Inv)
    (h1 : FlashKept g g1) (h' : FlashKept (deviceAdd2FlashWifi id b g1) g') (hsub : IsSub id)
    (hroom : ¬ g.globalDevice.Full ∨ g.globalDevice.Registered id) :
    getBindId g'.globalDevice id = b ↔
      ¬ g.globalDevice.Registered id ∨ getBindId g.globalDevice id = b := by
  have hid := hsub.ne_zero
  have hkind := isSub_iff.mp hsub
  have hrange : inRange id = true := by
    rw [inRange,Bool.or_assoc,hkind,Bool.or_true]
  by_cases hreg : g.globalDevice.Registered id
  · have hknown : ¬ Registers g1 id := by
      intro hr
      have hvalid := (registered_of_valid hid).mp hreg
      rw [(h1.registers_iff.mp hr).2.1] at hvalid
      cases hvalid
    have hkept := h1.trans ((deviceAdd2FlashWifi_flashKept hknown b).trans h')
    rw [hkept.getBindId]
    exact ⟨.inr,fun h => h.resolve_left fun hno => hno hreg⟩
  · have hnew : Registers g id := by
      refine ⟨hrange,flashGetKeyValid_error.mpr (mt (registered_of_valid hid).mpr hreg),?_⟩
      by_contra hfull
      refine (hroom.resolve_right hreg) fun n h1 hn hz => ?_
      exact hfull ⟨n,h1,hn,hz⟩
    obtain ⟨n,hn⟩ := hnew.firstFree
    have hp := (deviceAdd2FlashWifi_placed (h1.registers_iff.mpr hnew) (h1.firstFree_iff.mpr hn)
      b).congr h1 h'
    rw [if_neg (sub_not_main hkind)] at hp
    exact ⟨fun _ => .inl hreg,fun _ => hp.getBindId hinv hid⟩

/-- After a report of a device the device is bound to the sender, in memory and after a
reboot, exactly when it was not registered before or was bound to the sender already. -/
theorem rebind_iff (selfId : UInt32) (es : List StationEvent) (junk : Message) (rssi : Int)
    (buffer : List UInt8) (len : Nat)
    (h : PairingReport (es.foldl stationStep (stationOn selfId)).gateway junk buffer len) :
    (getBindId (rf433RxCallback junk rssi buffer len
          (es.foldl stationStep (stationOn selfId)).gateway).globalDevice
        (u32 (parseSync (gatewayFields buffer) junk).deviceId) =
        u32 (parseSync (gatewayFields buffer) junk).fromId ∧
      getBindId (loadDevice2Memory (rf433RxCallback junk rssi buffer len
          (es.foldl stationStep (stationOn selfId)).gateway).env)
        (u32 (parseSync (gatewayFields buffer) junk).deviceId) =
        u32 (parseSync (gatewayFields buffer) junk).fromId) ↔
    (¬ (es.foldl stationStep (stationOn selfId)).gateway.globalDevice.Registered
        (u32 (parseSync (gatewayFields buffer) junk).deviceId) ∨
      getBindId (es.foldl stationStep (stationOn selfId)).gateway.globalDevice
        (u32 (parseSync (gatewayFields buffer) junk).deviceId) =
        u32 (parseSync (gatewayFields buffer) junk).fromId) := by
  have hkept := station_wellKept selfId (es ++ [.event (.radio junk rssi buffer len)])
  have hstored := station_slotsStored selfId (es ++ [.event (.radio junk rssi buffer len)])
  rw [List.foldl_append] at hkept hstored
  generalize es.foldl stationStep (stationOn selfId) = s at h hkept hstored ⊢
  have hload := hstored.load_getBindId hkept.inv h.sub.ne_zero
  obtain ⟨g1,hg1,hcall⟩ := gatewaySyncSolve_command junk rssi h.accepted
  obtain ⟨g2,hg2,hadd⟩ := syncCommand_registers (g := g1) h.type
  rw [← hcall] at hadd
  have hbind := add_getBindId_iff hkept.inv (hg1.trans hg2) hadd h.sub h.room
  constructor
  · intro hboth
    exact hbind.mp hboth.1
  · intro hbefore
    have hram := hbind.mpr hbefore
    exact ⟨hram,hload.trans hram⟩

theorem rebind_new_slave :
    getBindId (rf433RxCallback .zero (-60) (radioBuffer slaveOnlineText) slaveOnlineText.length
        (([.event (learnMain '1')] : List StationEvent).foldl stationStep
          (stationOn 40000000)).gateway).globalDevice 20000001 = 10000001 := by
  have hroom : ¬ (([.event (learnMain '1')] : List StationEvent).foldl stationStep
      (stationOn 40000000)).gateway.globalDevice.Full := fun hfull =>
    hfull 2 (by decide) (by decide) (by decide +kernel)
  have hnew : ¬ (([.event (learnMain '1')] : List StationEvent).foldl stationStep
      (stationOn 40000000)).gateway.globalDevice.Registered 20000001 := by
    rw [registered_of_valid (by decide)]
    decide +kernel
  exact ((rebind_iff 40000000 [.event (learnMain '1')] .zero (-60) (radioBuffer slaveOnlineText)
    slaveOnlineText.length ⟨by decide +kernel,by decide +kernel,by decide +kernel,by decide +kernel,
      .inl hroom⟩).mpr (.inl hnew)).1

/-- A sync frame of type 6 in which main 10000002 reports the slave 20000001. -/
def slaveMovedText : Text :=
  ['A','{','0',',','6',',','4','0','0','0','0','0','0','0',',','1','0','0','0','0','0','0','2',',',
    '2','0','0','0','0','0','0','1',',','1',',','0','}','A']

/-- Two mains, and a slave that is bound to the first of them. -/
def boundSlaveRun : List StationEvent :=
  [.event (learnMain '1'),.event (learnMain '2'),.event (radioText slaveOnlineText)]

/-- The slave stays bound to the first main when the second one reports it. -/
theorem rebind_counterexample :
    ¬ ∀ (selfId : UInt32) (es : List StationEvent) (junk : Message) (rssi : Int)
      (buffer : List UInt8) (len : Nat),
      PairingReport (es.foldl stationStep (stationOn selfId)).gateway junk buffer len →
      getBindId (rf433RxCallback junk rssi buffer len
          (es.foldl stationStep (stationOn selfId)).gateway).globalDevice
        (u32 (parseSync (gatewayFields buffer) junk).deviceId) =
        u32 (parseSync (gatewayFields buffer) junk).fromId ∧
      getBindId (loadDevice2Memory (rf433RxCallback junk rssi buffer len
          (es.foldl stationStep (stationOn selfId)).gateway).env)
        (u32 (parseSync (gatewayFields buffer) junk).deviceId) =
        u32 (parseSync (gatewayFields buffer) junk).fromId := by
  intro hall
  have hroom : ¬ (boundSlaveRun.foldl stationStep (stationOn 40000000)).gateway.globalDevice.Full :=
    fun hfull => hfull 4 (by decide) (by decide) (by decide +kernel)
  have hbind := (hall 40000000 boundSlaveRun .zero (-60) (radioBuffer slaveMovedText)
    slaveMovedText.length ⟨by decide +kernel,by decide +kernel,by decide +kernel,by decide +kernel,
      .inl hroom⟩).1
  revert hbind
  decide +kernel

end GatewayF411
