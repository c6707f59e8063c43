import GatewayF411.Registration
import GatewayF411.Stations

/-!
A slot that is given to a new device. The add functions write its id, its binding and its
heart; whatever else the earlier occupants left in the slot becomes the record of the new
device.
-/

set_option autoImplicit false

namespace GatewayF411
open CText SlotScan Runs

/-- The columns of one slot beside its id and its binding. -/
structure SlotRecord where
  moto : UInt8
  rssi : UInt8
  heart : UInt8
  heartRetry : UInt8
  heartCount : UInt8
  heartRecv : UInt8
  syncRetry : UInt8
  uploadFlag : UInt8
  deriving DecidableEq, Repr

def DeviceInfo.slotRecord (d : DeviceInfo) (n : Nat) : SlotRecord :=
  ⟨d.moto n,d.rssi n,d.heart n,d.heartRetry n,d.heartCount n,d.heartRecv n,d.syncRetry n,
    d.uploadFlag n⟩

/-- Two tables with the same devices, in both of which `id` is new and gets slot `n`. -/
structure SameStart (d d' : DeviceInfo) (n : Nat) (id : UInt32) : Prop where
  registered : ∀ x, d.Registered x ↔ d'.Registered x
  free : d.FirstFree n
  free' : d'.FirstFree n
  kind : inRange id = true
  new : ¬ d.Registered id

/-- The flag that a registration of `id` leaves in slot `n`: an announcement clears it. -/
def keptFlag (id : UInt32) (n : Nat) (g : Gateway) : UInt8 :=
  if remoteGetKeyValid g.remoteDevice id = .error then 0 else g.globalDevice.uploadFlag n

structure SameLeftovers (id : UInt32) (n : Nat) (g g' : Gateway) : Prop where
  moto : g.globalDevice.moto n = g'.globalDevice.moto n
  rssi : g.globalDevice.rssi n = g'.globalDevice.rssi n
  heartRetry : g.globalDevice.heartRetry n = g'.globalDevice.heartRetry n
  heartCount : g.globalDevice.heartCount n = g'.globalDevice.heartCount n
  heartRecv : g.globalDevice.heartRecv n = g'.globalDevice.heartRecv n
  syncRetry : g.globalDevice.syncRetry n = g'.globalDevice.syncRetry n
  uploadFlag : keptFlag id n g = keptFlag id n g'

theorem registerDevice_record {g : Gateway} {n : Nat} (h : g.globalDevice.FirstFree n) {id : UInt32}
    (hnew : flashGetKeyValid g.globalDevice id = .error) (b : UInt32) :
    (registerDevice id b g).globalDevice.id n = id ∧
    (registerDevice id b g).globalDevice.slotRecord n = { g.globalDevice.slotRecord n with heart := 1 } := by
  unfold registerDevice
  rw [if_pos hnew]
  split
  · rw [mainAddFlash_snd,addFlash_first h,if_pos rfl,addMainNums_table]
    exact ⟨by simp [placeDevice],by simp [placeDevice,growNum,DeviceInfo.slotRecord]⟩
  · rw [addFlash_first h]
    exact ⟨by simp [placeDevice],by simp [placeDevice,growNum,DeviceInfo.slotRecord]⟩

theorem addWiFi_table (pid : Text) (id : UInt32) (g : Gateway) :
    (addWiFi pid id g).globalDevice = g.globalDevice := by
  obtain ⟨fs,hfs⟩ := addWiFi_onlyEmits g pid id
  rw [hfs]

theorem flashSetUploadFlag_record {g : Gateway} {n : Nat} {id : UInt32}
    (hs : findSlot g.globalDevice id = some n) (v : UInt8) :
    (flashSetUploadFlag id v g).2.globalDevice.slotRecord n =
      { g.globalDevice.slotRecord n with uploadFlag := v } := by
  simp [flashSetUploadFlag,hs,DeviceInfo.slotRecord]

theorem deviceAdd2FlashWifi_record {g : Gateway} (hinv : g.globalDevice.Inv) {n : Nat}
    (h : g.globalDevice.FirstFree n) {id : UInt32} (hr : inRange id = true)
    (hnew : flashGetKeyValid g.globalDevice id = .error) (b : UInt32) :
    (deviceAdd2FlashWifi id b g).globalDevice.slotRecord n =
      { g.globalDevice.slotRecord n with heart := 1, uploadFlag := keptFlag id n g } := by
  obtain ⟨hid,hrecord⟩ := registerDevice_record h hnew b
  have hne := inRange_ne_zero hr
  have hslot : findSlot (registerDevice id b g).globalDevice id = some n := by
    have hinv' : (registerDevice id b g).globalDevice.Inv := registerDevice_inv hinv hne
    have hs := hinv'.findSlot_id (n := n) (by rw [hid]; exact hne)
    rwa [hid] at hs
  rw [deviceAdd2FlashWifi_eq,if_pos hr]
  unfold announceDevice keptFlag
  rw [(registerDevice_silent id b g).remoteDevice]
  split
  · rw [addWiFi_table,flashSetUploadFlag_record hslot,hrecord]
  · rw [hrecord]
    rfl

/-- After two histories with the same devices, a new device in slot `n` gets the same record
exactly when the two histories left the same in that slot. -/
theorem slot_reuse_iff (selfId : UInt32) (es es' : List StationEvent) (n : Nat) (id fromId : UInt32)
    (h : SameStart (es.foldl stationStep (stationOn selfId)).gateway.globalDevice
      (es'.foldl stationStep (stationOn selfId)).gateway.globalDevice n id) :
    (deviceAdd2FlashWifi id fromId
        (es.foldl stationStep (stationOn selfId)).gateway).globalDevice.slotRecord n =
      (deviceAdd2FlashWifi id fromId
        (es'.foldl stationStep (stationOn selfId)).gateway).globalDevice.slotRecord n ↔
    SameLeftovers id n (es.foldl stationStep (stationOn selfId)).gateway
      (es'.foldl stationStep (stationOn selfId)).gateway := by
  have hinv := (station_wellKept selfId es).inv
  have hinv' := (station_wellKept selfId es').inv
  generalize (es.foldl stationStep (stationOn selfId)).gateway = g at h hinv ⊢
  generalize (es'.foldl stationStep (stationOn selfId)).gateway = g' at h hinv' ⊢
  have hid := inRange_ne_zero h.kind
  have hnew : flashGetKeyValid g.globalDevice id = .error :=
    flashGetKeyValid_error.mpr (mt (registered_of_valid hid).mpr h.new)
  have hnew' : flashGetKeyValid g'.globalDevice id = .error :=
    flashGetKeyValid_error.mpr (mt (registered_of_valid hid).mpr (mt (h.registered id).mpr h.new))
  rw [deviceAdd2FlashWifi_record hinv h.free h.kind hnew,
    deviceAdd2FlashWifi_record hinv' h.free' h.kind hnew']
  simp only [DeviceInfo.slotRecord,SlotRecord.mk.injEq,true_and]
  constructor
  · rintro ⟨hmoto,hrssi,hretry,hcount,hrecv,hsync,hflag⟩
    exact ⟨hmoto,hrssi,hretry,hcount,hrecv,hsync,hflag⟩
  · rintro ⟨hmoto,hrssi,hretry,hcount,hrecv,hsync,hflag⟩
    exact ⟨hmoto,hrssi,hretry,hcount,hrecv,hsync,hflag⟩

/-- Slot 2 after main 1000000c stood in it and was deleted by the cloud, next to main 10000001. -/
def reusedSlot (c : Char) : List StationEvent :=
  [.event (learnMain '1'),.event (learnMain c),
    .event (.subdeviceDelete ['1','0','0','0','0','0','0',c])]

theorem registered_congr {d d' : DeviceInfo} (hnum : d.num = d'.num)
    (hid : ∀ n, n ≤ d'.num → d.id n = d'.id n) (x : UInt32) : d.Registered x ↔ d'.Registered x := by
  refine and_congr_right fun _ => ?_
  constructor
  · rintro ⟨n,h1,hn,hx⟩
    rw [hnum] at hn
    exact ⟨n,h1,hn,(hid n hn).symm.trans hx⟩
  · rintro ⟨n,h1,hn,hx⟩
    exact ⟨n,h1,by rw [hnum]; exact hn,(hid n hn).trans hx⟩

theorem slot_reuse_two_mains :
    (deviceAdd2FlashWifi 10000004 0
        ((reusedSlot '2').foldl stationStep (stationOn 40000000)).gateway).globalDevice.slotRecord 2 =
      (deviceAdd2FlashWifi 10000004 0
        ((reusedSlot '3').foldl stationStep (stationOn 40000000)).gateway).globalDevice.slotRecord
          2 := by
  refine (slot_reuse_iff 40000000 (reusedSlot '2') (reusedSlot '3') 2 10000004 0 ?_).mpr ?_
  · refine ⟨registered_congr (by decide +kernel) (by decide +kernel),?_,?_,by decide,?_⟩
    · exact ⟨by decide,by decide,by decide +kernel,by decide +kernel⟩
    · exact ⟨by decide,by decide,by decide +kernel,by decide +kernel⟩
    · rw [registered_of_valid (by decide)]
      decide +kernel
  · constructor <;> decide +kernel

/-- Main 10000001 reports its valve open. -/
def valveOpenText : Text :=
  ['C','{','0',',','4','0','0','0','0','0','0','0',',','1','0','0','0','0','0','0','1',',',
    '0',',','1',',','1',',','1','}','C']

/-- Main 10000001 is learned, reports as given, and is deleted. -/
def reportedMain (reports : List StationEvent) : List StationEvent :=
  .event (learnMain '1') :: reports ++ [.event (.subdeviceDelete ['1','0','0','0','0','0','0','1'])]

/-- Main 10000002 takes over the valve state of the main that stood in slot 1 before it. -/
theorem slot_reuse_counterexample :
    ¬ ∀ (selfId : UInt32) (es es' : List StationEvent) (n : Nat) (id fromId : UInt32),
      SameStart (es.foldl stationStep (stationOn selfId)).gateway.globalDevice
        (es'.foldl stationStep (stationOn selfId)).gateway.globalDevice n id →
      (deviceAdd2FlashWifi id fromId
          (es.foldl stationStep (stationOn selfId)).gateway).globalDevice.slotRecord n =
        (deviceAdd2FlashWifi id fromId
          (es'.foldl stationStep (stationOn selfId)).gateway).globalDevice.slotRecord n := by
  intro hall
  have hsame := hall 40000000 (reportedMain []) (reportedMain [.event (radioText valveOpenText)]) 1
    10000002 0 ?_
  · exact absurd (congrArg SlotRecord.moto hsame) (by decide +kernel)
  · refine ⟨registered_congr (by decide +kernel) (by decide +kernel),?_,?_,by decide,?_⟩
    · exact ⟨by decide,by decide,by decide +kernel,by decide +kernel⟩
    · exact ⟨by decide,by decide,by decide +kernel,by decide +kernel⟩
    · rw [registered_of_valid (by decide)]
      decide +kernel

end GatewayF411
