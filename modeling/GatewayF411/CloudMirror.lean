import GatewayF411.Lib.Runs
import GatewayF411.CloudNews

/-!
`Remote_Device` mirrors the list of sub-devices that the cloud holds. List packets append to
it, a new connection clears it, and `Del_Device` takes one entry out of it.
-/

set_option autoImplicit false

namespace GatewayF411
open CText SlotScan Runs

/-- The variables of `wifi-uart.c` behind `wifi_status_change`. -/
structure WifiState where
  factoryFlag : Bool
  status : UInt8
  connected : Bool
  deriving DecidableEq, Repr

def WifiState.reconnects (w : WifiState) (result : UInt8) : Bool :=
  !w.factoryFlag && w.status != result && result == 4 && !w.connected

def WifiState.change (w : WifiState) (result : UInt8) : WifiState :=
  if w.factoryFlag = true ∨ w.status = result then w
  else if result = 1 ∨ result = 2 then { w with status := result, connected := false }
  else if result = 4 then { w with status := result, connected := true }
  else { w with status := result }

def wifiStatusChange (result : UInt8) (w : WifiState) (g : Gateway) : WifiState × Gateway :=
  (w.change result,if w.reconnects result then remoteDeviceClear g else g)

def listNodes (packet : List UInt8) : (left offset : Nat) → List UInt32
  | 0, _ => []
  | left+1, offset =>
    let len := (packet.getD offset 0).toNat
    u32 (atol (cString ((packet.drop (offset+1)).take len) 0)) ::
      listNodes packet left (offset+len+1)

def listedIds (packet : List UInt8) : List UInt32 := listNodes packet (packet.getD 1 0).toNat 2

def lastPacket (packet : List UInt8) : Bool := packet.getD 0 0 >>> 7 == 0

def subdevIds (packet : List UInt8) (count : Nat) :
    (left offset : Nat) → (nodes : Nat → UInt8) → List UInt32
  | 0, _, _ => []
  | left+1, offset, nodes =>
    let i := count-(left+1)
    let len := (packet.getD offset 0).toNat
    let nodes := fun a =>
      if 33*i ≤ a ∧ a ≤ 33*i+len then packet.getD (offset+(a-33*i)) 0 else nodes a
    u32 (atol (nodeText nodes count i)) ::
      subdevIds packet count left ((offset+len+1) % 256) nodes

def readIds (packet : List UInt8) : List UInt32 :=
  subdevIds packet (packet.getD 1 0).toNat (packet.getD 1 0).toNat 2 (fun _ => 0)

/-- What a frame of the gateway does to the cloud's set of sub-devices. -/
def CloudFrame.tell (subdevs : List UInt32) : CloudFrame → List UInt32
  | .subdevDel subId => subdevs.filter (fun id => id != u32 (atol subId))
  | .subdeviceAdd _ _ _ subId _ _ => u32 (atol subId) :: subdevs
  | _ => subdevs

def told (subdevs : List UInt32) (fs : List CloudFrame) : List UInt32 :=
  fs.foldl CloudFrame.tell subdevs

/-- The gateway together with the cloud's set of sub-devices: the ids of the last complete
list, without those deleted and with those added since. `pending` holds the ids of the
packets of a list that is not complete. -/
structure CloudView where
  gateway : Gateway
  wifi : WifiState
  subdevs : List UInt32
  pending : List UInt32

inductive CloudEvent where
  | event (e : Event)
  | wifiStatus (result : UInt8)

def CloudView.listed (v : CloudView) (packet : List UInt8) : List UInt32 :=
  if lastPacket packet then v.pending ++ listedIds packet else v.subdevs

def CloudView.subdevsAfter (v : CloudView) (g : Gateway) : Event → List UInt32
  | .subdevList _ packet => v.listed packet
  | .subdeviceDelete subId =>
    (told v.subdevs (g.cloud.drop v.gateway.cloud.length)).filter
      (fun id => id != u32 (atol subId))
  | _ => told v.subdevs (g.cloud.drop v.gateway.cloud.length)

def CloudView.pendingAfter (v : CloudView) : Event → List UInt32
  | .subdevList _ packet => if lastPacket packet then [] else v.pending ++ listedIds packet
  | _ => v.pending

def cloudStep (v : CloudView) : CloudEvent → CloudView
  | .event e =>
    let g := step v.gateway e
    { v with gateway := g, subdevs := v.subdevsAfter g e, pending := v.pendingAfter e }
  | .wifiStatus result =>
    let r := wifiStatusChange result v.wifi v.gateway
    { v with
      wifi := r.1
      gateway := r.2
      pending := if v.wifi.reconnects result then [] else v.pending }

def cloudOn (selfId : UInt32) (wifi : WifiState) : CloudView := ⟨powerOn selfId [],wifi,[],[]⟩

/-- Of the ids asked about, the mirror `r` holds only those in `subdevs`. -/
def SoundMirror (asked : UInt32 → Prop) (r : RemoteInfo) (subdevs : List UInt32) : Prop :=
  ∀ id, asked id → remoteGetKeyValid r id = .eok → id ∈ subdevs

/-- The mirror claims no device that the cloud does not hold, and a device that the cloud does
not hold is added to it again when it is learned. -/
structure MirrorTruthful (asked : UInt32 → Prop) (v : CloudView) : Prop where
  sound : SoundMirror asked v.gateway.remoteDevice v.subdevs
  readds : ∀ id fromId, asked id → inRange id = true → id ∉ v.subdevs →
    .subdeviceAdd ['1','.','0'] (devicePid id) 0 (fmtLd id) 10 0 ∈
      (deviceAdd2FlashWifi id fromId v.gateway).cloud.drop v.gateway.cloud.length

def RemoteInfo.OneEntry (r : RemoteInfo) (id : UInt32) : Prop :=
  ∀ i j, 1 ≤ i → i ≤ r.num → 1 ≤ j → j ≤ r.num → r.id i = id → r.id j = id → i = j

/-- A deletion of `id` takes it out of the mirror: the id is registered and mirrored once. The
entry that is freed reads as the id 0. -/
def DeletionMirrored (asked : UInt32 → Prop) (v : CloudView) (id : UInt32) : Prop :=
  remoteGetKeyValid v.gateway.remoteDevice id = .eok →
    (asked id → id ≠ 0 ∧ flashGetKeyValid v.gateway.globalDevice id = .eok ∧
      v.gateway.remoteDevice.OneEntry id) ∧
    (asked 0 → flashGetKeyValid v.gateway.globalDevice id = .eok → id = 0 ∨ 0 ∈ v.subdevs)

structure SyncMirrored (asked : UInt32 → Prop) (v : CloudView) (m : Message) : Prop where
  deleted : m.type = 2 → DeletionMirrored asked v (u32 m.deviceId)
  dropped : m.type = 4 → ∀ j, 1 ≤ j → j ≤ v.gateway.globalDevice.num →
    v.gateway.globalDevice.BoundTo (u32 m.fromId) j → asked (v.gateway.globalDevice.id j) →
    remoteGetKeyValid v.gateway.remoteDevice (v.gateway.globalDevice.id j) = .error

def LearnMirrored (asked : UInt32 → Prop) (v : CloudView) (m : Message) : Prop :=
  asked 0 → LearnsAgain v.gateway.globalDevice m →
    flashGetKeyValid v.gateway.globalDevice (u32 m.fromId) = .eok →
    remoteGetKeyValid v.gateway.remoteDevice (u32 m.fromId) = .eok → 0 ∈ v.subdevs

/-- The ids read from a packet, and at the end of a list all that is mirrored, are in the
cloud's set. -/
structure ListMirrored (asked : UInt32 → Prop) (v : CloudView) (mallocOk : Bool)
    (packet : List UInt8) : Prop where
  read : mallocOk = true → ∀ id ∈ readIds packet, asked id → id ∈ v.listed packet
  kept : lastPacket packet = true → SoundMirror asked v.gateway.remoteDevice (v.listed packet)

def MirrorKept (asked : UInt32 → Prop) (v : CloudView) : CloudEvent → Prop
  | .event (.radio junk _ buffer len) =>
    (NormalAccepted v.gateway junk buffer len →
      LearnMirrored asked v (parseNormal (normalFields buffer) junk)) ∧
    (SyncAccepted v.gateway junk buffer len →
      SyncMirrored asked v (parseSync (gatewayFields buffer) junk))
  | .event (.subdeviceDelete subId) => DeletionMirrored asked v (u32 (atol subId))
  | .event (.subdevList mallocOk packet) => ListMirrored asked v mallocOk packet
  | _ => True

/-- The mirror has room for the ids of a list packet; `Remote_Device_Add` does not check. -/
def MirrorFits (v : CloudView) : CloudEvent → Prop
  | .event (.subdevList true packet) =>
    v.gateway.remoteDevice.num+(packet.getD 1 0).toNat < maxSupport
  | _ => True

theorem remoteGetKeyValid_eok {r : RemoteInfo} {id : UInt32} :
    remoteGetKeyValid r id = .eok ↔ ∃ n, 1 ≤ n ∧ n ≤ r.num ∧ r.id n = id := by
  have h := scanDown_isSome (p := fun n => r.id n == id) (n := r.num)
  simp only [beq_iff_eq] at h
  rw [← h]
  unfold remoteGetKeyValid remoteSlot
  split <;> simp_all

theorem remoteGetKeyValid_error {r : RemoteInfo} {id : UInt32} :
    remoteGetKeyValid r id = .error ↔ ¬ remoteGetKeyValid r id = .eok := by
  cases remoteGetKeyValid r id <;> simp

theorem SoundMirror.mono {asked : UInt32 → Prop} {r : RemoteInfo} {ids ids' : List UInt32}
    (h : SoundMirror asked r ids) (hsub : ∀ id ∈ ids, id ∈ ids') : SoundMirror asked r ids' :=
  fun id ha hr => hsub id (h id ha hr)

/-- A sound mirror is enough: an id that the cloud does not hold is not mirrored. -/
theorem mirrorTruthful_iff_sound {asked : UInt32 → Prop} {v : CloudView} :
    MirrorTruthful asked v ↔ SoundMirror asked v.gateway.remoteDevice v.subdevs := by
  refine ⟨fun h => h.sound,fun h => ⟨h,fun id fromId ha hr hnot => ?_⟩⟩
  have herr : remoteGetKeyValid v.gateway.remoteDevice id = .error := by
    rw [remoteGetKeyValid_error]
    exact fun heok => hnot (h id ha heok)
  rw [deviceAdd2FlashWifi_news,List.drop_left,if_pos ⟨hr,herr⟩]
  simp [addFrames]

def CloudFrame.isNews : CloudFrame → Bool
  | .subdeviceAdd _ _ _ _ _ _ => true
  | .subdevDel _ => true
  | _ => false

theorem CloudFrame.noNews_of_report {f : CloudFrame} (h : f.isReport = true) :
    f.isNews = false := by
  cases f with
  | subdeviceAdd => cases h
  | subdevDel => cases h
  | _ => rfl

theorem CloudFrame.tell_of_noNews {f : CloudFrame} (h : f.isNews = false) (ids : List UInt32) :
    CloudFrame.tell ids f = ids := by
  cases f with
  | subdeviceAdd => cases h
  | subdevDel => cases h
  | _ => rfl

/-- The frames sent on the way from `g` to `g'` turn the cloud's set `ids` into `ids'`. -/
def Told (g : Gateway) (ids : List UInt32) (g' : Gateway) (ids' : List UInt32) : Prop :=
  ∃ fs, g'.cloud = g.cloud ++ fs ∧ told ids fs = ids'

theorem Told.eq {g g' : Gateway} {ids ids' : List UInt32} (h : Told g ids g' ids') :
    told ids (g'.cloud.drop g.cloud.length) = ids' := by
  obtain ⟨fs,hfs,htold⟩ := h
  rw [hfs,List.drop_left,htold]

theorem Told.trans {g g' g'' : Gateway} {ids ids' ids'' : List UInt32} (h : Told g ids g' ids')
    (h' : Told g' ids' g'' ids'') : Told g ids g'' ids'' := by
  obtain ⟨fs,hfs,htold⟩ := h
  obtain ⟨fs',hfs',htold'⟩ := h'
  refine ⟨fs ++ fs',by rw [hfs',hfs,List.append_assoc],?_⟩
  unfold told at htold htold' ⊢
  rw [List.foldl_append,htold,htold']

theorem told_of_noNews {fs : List CloudFrame} (h : ∀ f ∈ fs, f.isNews = false)
    (ids : List UInt32) : told ids fs = ids := by
  induction fs generalizing ids with
  | nil => rfl
  | cons f fs ih =>
    have hf := CloudFrame.tell_of_noNews (h f (by simp)) ids
    rw [told,List.foldl_cons,hf,← told]
    exact ih (fun f' hf' => h f' (by simp [hf'])) ids

structure Hush (g g' : Gateway) : Prop where
  num : g'.globalDevice.num = g.globalDevice.num
  id : g'.globalDevice.id = g.globalDevice.id
  bindId : g'.globalDevice.bindId = g.globalDevice.bindId
  remoteDevice : g'.remoteDevice = g.remoteDevice
  cloud : ∃ fs, g'.cloud = g.cloud ++ fs ∧ ∀ f ∈ fs, f.isNews = false

theorem Hush.toTold {g g' : Gateway} (h : Hush g g') (ids : List UInt32) : Told g ids g' ids := by
  obtain ⟨fs,hfs,hn⟩ := h.cloud
  exact ⟨fs,hfs,told_of_noNews hn ids⟩

theorem Hush.refl (g : Gateway) : Hush g g := ⟨rfl,rfl,rfl,rfl,[],by simp,by simp⟩

theorem Hush.trans {g g' g'' : Gateway} (h : Hush g g') (h' : Hush g' g'') : Hush g g'' := by
  obtain ⟨fs,hfs,hn⟩ := h.cloud
  obtain ⟨fs',hfs',hn'⟩ := h'.cloud
  refine ⟨h'.num.trans h.num,h'.id.trans h.id,h'.bindId.trans h.bindId,
    h'.remoteDevice.trans h.remoteDevice,fs ++ fs',by rw [hfs',hfs,List.append_assoc],?_⟩
  intro f hf
  rcases List.mem_append.mp hf with hf | hf
  · exact hn f hf
  · exact hn' f hf

theorem Still.hush {g g' : Gateway} (h : Still g g') : Hush g g' := by
  obtain ⟨fs,hfs,hr⟩ := h.cloud
  exact ⟨h.num,h.id,h.bindId,h.remoteDevice,fs,hfs,
    fun f hf => CloudFrame.noNews_of_report (hr f hf)⟩

theorem hush_emit {f : CloudFrame} (hf : f.isNews = false) (g : Gateway) : Hush g (g.emit f) :=
  ⟨rfl,rfl,rfl,rfl,[f],rfl,by simpa using hf⟩

theorem deviceUp_hush (id : UInt32) (g : Gateway) : Hush g (deviceUp id g) :=
  (hush_emit rfl g).trans (hush_emit rfl _)

theorem setSlaveHeart_hush (id : UInt32) (v : UInt8) (g : Gateway) :
    Hush g (setSlaveHeart id v g) := by
  refine foldDown_keeps (fun g' => Hush g g') (fun n g' h => h.trans ?_) (Hush.refl g)
  unfold setSlaveHeartBody
  split
  · split
    · split
      · exact deviceUp_hush _ g'
      · exact .refl g'
    · exact hush_emit rfl g'
  · exact .refl g'

theorem flashSetHeart_hush (id : UInt32) (v : UInt8) (g : Gateway) :
    Hush g (flashSetHeart id v g).2 := by
  have hchange : ∀ (n : Nat) (w : UInt8) (g : Gateway), Hush g (changeHeart n id w g) := by
    intro n w g
    have h := setSlaveHeart_hush id w g
    exact ⟨h.num,h.id,h.bindId,h.remoteDevice,h.cloud⟩
  unfold flashSetHeart
  split
  · rename_i n hs
    split
    · have hrecv : Hush g (setHeartRecv n g) := ⟨rfl,rfl,rfl,rfl,[],by simp [setHeartRecv,
        Gateway.setTable],by simp⟩
      refine hrecv.trans ?_
      dsimp only
      split
      · exact hchange n 1 _
      · exact .refl _
    · dsimp only
      split
      · exact hchange n 0 g
      · exact .refl g
  · exact .refl g

theorem HeartCall.hush {id : UInt32} {v : UInt8} {g g' : Gateway} (h : HeartCall id v g g') :
    Hush g g' := by
  obtain ⟨g1,h1,h2⟩ := h
  exact (h1.hush.trans (flashSetHeart_hush id v g1)).trans h2.hush

theorem warningCommand_hush (m : Message) (g : Gateway) : Hush g (warningCommand m g) := by
  rcases warningCommand_heartCall g m with hs | ⟨_,hc⟩ | ⟨_,hc⟩
  · exact hs.hush
  · exact hc.hush
  · exact hc.hush

theorem controlCommand_hush (m : Message) (g : Gateway) : Hush g (controlCommand m g) := by
  rcases controlCommand_heartCall g m with hs | ⟨_,hc⟩
  · exact hs.hush
  · exact hc.hush

theorem deviceAdd2FlashWifi_told (id b : UInt32) (g : Gateway) (ids : List UInt32) :
    Told g ids (deviceAdd2FlashWifi id b g)
      (if inRange id = true ∧ remoteGetKeyValid g.remoteDevice id = .error then id :: ids
        else ids) := by
  refine ⟨_,deviceAdd2FlashWifi_news id b g,?_⟩
  split
  · simp [told,addFrames,CloudFrame.tell,u32,atol_fmtLd]
  · rfl

theorem localDelete_told (id : UInt32) (g : Gateway) (ids : List UInt32) :
    Told g ids (localDelete id g) (ids.filter (fun x => x != id)) := by
  obtain ⟨fs,hfs,hr⟩ := localDelete_news id g
  refine ⟨.subdevDel (fmtLd id) :: fs,by rw [hfs],?_⟩
  have hnews : ∀ f ∈ fs, f.isNews = false := fun f hf => CloudFrame.noNews_of_report (hr f hf)
  rw [told,List.foldl_cons,← told,told_of_noNews hnews,CloudFrame.tell,u32,atol_fmtLd]

theorem mem_told_of_deletes {fs : List CloudFrame}
    (h : ∀ f ∈ fs, f.isReport = true ∨ ∃ x, f = .subdevDel (fmtLd x)) (ids : List UInt32)
    (id : UInt32) : id ∈ told ids fs ↔ id ∈ ids ∧ .subdevDel (fmtLd id) ∉ fs := by
  induction fs generalizing ids with
  | nil => simp [told]
  | cons f fs ih =>
    rw [told,List.foldl_cons,← told,ih (fun f' hf' => h f' (by simp [hf']))]
    rcases h f (by simp) with hr | ⟨x,rfl⟩
    · have htell := CloudFrame.tell_of_noNews (CloudFrame.noNews_of_report hr) ids
      have hne : CloudFrame.subdevDel (fmtLd id) ≠ f := by
        rintro rfl
        cases hr
      simp [htell,hne]
    · have hne : CloudFrame.subdevDel (fmtLd id) = .subdevDel (fmtLd x) ↔ id = x := by
        refine ⟨fun heq => ?_,fun heq => by rw [heq]⟩
        exact fmtLd_injective (CloudFrame.subdevDel.inj heq)
      simp only [CloudFrame.tell,u32,atol_fmtLd,List.mem_filter,bne_iff_ne,List.mem_cons,hne,
        not_or,and_assoc]

theorem delMainBind_told (a : UInt32) (g : Gateway) (ids : List UInt32) :
    ∃ ids', Told g ids (delMainBind a g).2 ids' ∧ ∀ id, id ∈ ids' ↔ id ∈ ids ∧
      ∀ j, 1 ≤ j → j ≤ g.globalDevice.num → g.globalDevice.BoundTo a j →
        g.globalDevice.id j ≠ id := by
  obtain ⟨_,fs,hfs,hdel⟩ := delMainBind_news a g
  refine ⟨told ids fs,⟨fs,hfs,rfl⟩,fun id => ?_⟩
  rw [mem_told_of_deletes]
  · refine and_congr_right fun _ => ⟨fun hnot j h1 hj hb heq => ?_,fun hall hin => ?_⟩
    · have hin := hdel.all j h1 hj hb
      rw [heq] at hin
      exact hnot hin
    · rcases hdel.only _ hin with hr | ⟨j,h1,hj,hb,heq⟩
      · cases hr
      · exact hall j h1 hj hb (fmtLd_injective (CloudFrame.subdevDel.inj heq)).symm
  · intro f hf
    rcases hdel.only f hf with hr | ⟨j,_,_,_,heq⟩
    · exact .inl hr
    · exact .inr ⟨_,heq⟩

theorem remoteDeviceDelete_remote (id : UInt32) (g : Gateway) :
    (remoteDeviceDelete id g).2.remoteDevice =
      match remoteSlot g.remoteDevice id with
      | some n => { g.remoteDevice with id := Function.update g.remoteDevice.id n 0 }
      | none => g.remoteDevice := by
  unfold remoteDeviceDelete
  split <;> simp_all

theorem delDevice_remote {id : UInt32} {g : Gateway}
    (h : flashGetKeyValid g.globalDevice id = .eok) :
    (delDevice id g).2.remoteDevice = (remoteDeviceDelete id g).2.remoteDevice := by
  unfold delDevice
  split
  · simp only [clearSlot,remoteDeviceDelete_remote,(ifDelMainNums_silent id g).remoteDevice]
  · rename_i hs
    rw [findSlot_eq_none,h] at hs
    cases hs

theorem delDevice_remote_unknown {id : UInt32} {g : Gateway}
    (h : ¬ flashGetKeyValid g.globalDevice id = .eok) :
    (delDevice id g).2.remoteDevice = g.remoteDevice := by
  have hs : findSlot g.globalDevice id = none := by
    rw [findSlot_eq_none]
    cases hv : flashGetKeyValid g.globalDevice id with
    | eok => exact absurd hv h
    | error => rfl
  rw [delDevice_none hs]

/-- What `Del_Device` leaves in the mirror. Nothing changes, or the highest entry `n` of a
registered and mirrored id is freed. -/
theorem delDevice_mirror (id : UInt32) (g : Gateway) :
    (¬ (flashGetKeyValid g.globalDevice id = .eok ∧ remoteGetKeyValid g.remoteDevice id = .eok) ∧
      (delDevice id g).2.remoteDevice = g.remoteDevice) ∨
    (flashGetKeyValid g.globalDevice id = .eok ∧ remoteGetKeyValid g.remoteDevice id = .eok ∧
      ∃ n, 1 ≤ n ∧ n ≤ g.remoteDevice.num ∧ g.remoteDevice.id n = id ∧
        (delDevice id g).2.remoteDevice =
          { g.remoteDevice with id := Function.update g.remoteDevice.id n 0 }) := by
  by_cases hv : flashGetKeyValid g.globalDevice id = .eok
  · rw [delDevice_remote hv,remoteDeviceDelete_remote]
    cases hs : remoteSlot g.remoteDevice id with
    | none =>
      refine .inl ⟨fun hboth => ?_,rfl⟩
      simp [remoteGetKeyValid,hs] at hboth
    | some n =>
      have hn := scanDown_sound hs
      refine .inr ⟨hv,by simp [remoteGetKeyValid,hs],n,hn.1,hn.2.1,by simpa using hn.2.2,rfl⟩
  · exact .inl ⟨fun hboth => hv hboth.1,delDevice_remote_unknown hv⟩

section Freed
variable {r : RemoteInfo} {n : Nat}

theorem freed_zero (h1 : 1 ≤ n) (hn : n ≤ r.num) :
    remoteGetKeyValid { r with id := Function.update r.id n 0 } 0 = .eok :=
  remoteGetKeyValid_eok.mpr ⟨n,h1,hn,by simp⟩

theorem freed_eok {x : UInt32}
    (h : remoteGetKeyValid { r with id := Function.update r.id n 0 } x = .eok) :
    x = 0 ∨ ∃ j, j ≠ n ∧ 1 ≤ j ∧ j ≤ r.num ∧ r.id j = x := by
  obtain ⟨j,hj1,hjn,hj⟩ := remoteGetKeyValid_eok.mp h
  by_cases hjeq : j = n
  · rw [hjeq] at hj
    exact .inl (by simpa using hj.symm)
  · exact .inr ⟨j,hjeq,hj1,hjn,by simpa [hjeq] using hj⟩

theorem freed_other {x : UInt32} {j : Nat} (hj : j ≠ n) (hj1 : 1 ≤ j) (hjn : j ≤ r.num)
    (hx : r.id j = x) : remoteGetKeyValid { r with id := Function.update r.id n 0 } x = .eok :=
  remoteGetKeyValid_eok.mpr ⟨j,hj1,hjn,by simpa [hj] using hx⟩

end Freed

/-- Deleting `id` on both sides keeps the mirror sound exactly when the one entry of a
registered id was freed, and 0 was not asked about or is in the cloud's set. -/
theorem delDevice_sound_iff {asked : UInt32 → Prop} {v : CloudView} {g : Gateway} {id : UInt32}
    (hp : SoundMirror asked v.gateway.remoteDevice v.subdevs)
    (hremote : g.remoteDevice = v.gateway.remoteDevice)
    (hvalid : flashGetKeyValid g.globalDevice id = flashGetKeyValid v.gateway.globalDevice id) :
    SoundMirror asked (delDevice id g).2.remoteDevice (v.subdevs.filter (fun x => x != id)) ↔
      DeletionMirrored asked v id := by
  have hcases := delDevice_mirror id g
  rw [hremote,hvalid] at hcases
  unfold DeletionMirrored
  constructor
  · intro hp' hm
    have hgone : asked id → ¬ remoteGetKeyValid (delDevice id g).2.remoteDevice id = .eok := by
      intro ha hm'
      simpa using hp' id ha hm'
    rcases hcases with ⟨hno,hsame⟩ | ⟨hv,_,n,h1,hn,hid,hfreed⟩
    · rw [hsame] at hgone
      refine ⟨fun ha => absurd hm (hgone ha),fun _ hv => absurd ⟨hv,hm⟩ hno⟩
    · rw [hfreed] at hgone hp'
      refine ⟨fun ha => ⟨?_,hv,fun i j hi1 hin hj1 hjn hi hj => ?_⟩,fun ha _ => ?_⟩
      · rintro rfl
        exact hgone ha (freed_zero h1 hn)
      · have hfix : ∀ k, 1 ≤ k → k ≤ v.gateway.remoteDevice.num →
            v.gateway.remoteDevice.id k = id → k = n := by
          intro k hk1 hkn hk
          by_contra hne
          exact hgone ha (freed_other hne hk1 hkn hk)
        rw [hfix i hi1 hin hi,hfix j hj1 hjn hj]
      · have hzero := hp' 0 ha (freed_zero h1 hn)
        exact .inr (List.mem_filter.mp hzero).1
  · intro hc x ha hm'
    rw [List.mem_filter,bne_iff_ne]
    rcases hcases with ⟨hno,hsame⟩ | ⟨hv,hm,n,h1,hn,hid,hfreed⟩
    · rw [hsame] at hm'
      refine ⟨hp x ha hm',?_⟩
      rintro rfl
      exact hno ⟨((hc hm').1 ha).2.1,hm'⟩
    · rw [hfreed] at hm'
      obtain ⟨hone,hzero⟩ := hc hm
      rcases freed_eok hm' with rfl | ⟨j,hjn,hj1,hjle,hj⟩
      · have hne : id ≠ 0 := by
          rintro rfl
          exact absurd rfl (hone ha).1
        exact ⟨(hzero ha hv).resolve_left hne,hne.symm⟩
      · refine ⟨hp x ha (remoteGetKeyValid_eok.mpr ⟨j,hj1,hjle,hj⟩),?_⟩
        rintro rfl
        exact hjn ((hone ha).2.2 j n hj1 hjle h1 hn hj hid)

/-- Learning a main again only frees entries, and may announce it. -/
theorem relearn_sound_iff {asked : UInt32 → Prop} {v : CloudView} {id : UInt32} (hne : id ≠ 0)
    {ids : List UInt32} (hids : ∀ x, x ∈ ids → x ∈ v.subdevs ∨ x = id)
    (hsub : ∀ x, x ∈ v.subdevs → x ∈ ids)
    (hp : SoundMirror asked v.gateway.remoteDevice v.subdevs) :
    SoundMirror asked (delDevice id v.gateway).2.remoteDevice ids ↔
      (asked 0 → flashGetKeyValid v.gateway.globalDevice id = .eok →
        remoteGetKeyValid v.gateway.remoteDevice id = .eok → 0 ∈ v.subdevs) := by
  rcases delDevice_mirror id v.gateway with ⟨hno,hsame⟩ | ⟨hv,hm,n,h1,hn,_,hfreed⟩
  · rw [hsame]
    exact iff_of_true (hp.mono hsub) fun _ hv hm => absurd ⟨hv,hm⟩ hno
  · rw [hfreed]
    constructor
    · intro hp' ha _ _
      exact (hids 0 (hp' 0 ha (freed_zero h1 hn))).resolve_right hne.symm
    · intro hc x ha hm'
      rcases freed_eok hm' with rfl | ⟨j,_,hj1,hjle,hj⟩
      · exact hsub 0 (hc ha hv hm)
      · exact hsub x (hp x ha (remoteGetKeyValid_eok.mpr ⟨j,hj1,hjle,hj⟩))

end GatewayF411
