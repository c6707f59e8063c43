import GatewayF411.Heartbeat
import GatewayF411.CloudNews
import GatewayF411.Orphans

set_option autoImplicit false

namespace GatewayF411
open CText SlotScan Runs

def IsSub (id : UInt32) : Prop := 20000000 ≤ id ∧ id < 40000000

instance (id : UInt32) : Decidable (IsSub id) := inferInstanceAs (Decidable (_ ∧ _))

def deviceUpFrame (id : UInt32) : CloudFrame := .onlineState 0 (fmtLd id) 1 1

def DeviceInfo.Online (d : DeviceInfo) (id : UInt32) : Prop :=
  d.Registered id ∧ flashGetHeart d id = 1 ∧ (IsSub id → flashGetHeart d (getBindId d id) = 1)

/-- Every device reported online while `e` is handled is online in the end. -/
def PresenceSound (s : Station) (e : StationEvent) : Prop :=
  ∀ id, deviceUpFrame id ∈ (stationStep s e).gateway.cloud.drop s.gateway.cloud.length →
    (stationStep s e).gateway.globalDevice.Online id

/-- Setting the heart of `x`, which was offline, reports `id` online. -/
def DeviceInfo.Raises (d : DeviceInfo) (x id : UInt32) : Prop :=
  flashGetKeyValid d x = .eok ∧ flashGetHeart d x = 0 ∧
  ∃ j, 1 ≤ j ∧ j ≤ d.num ∧ d.bindId j = x ∧ d.heart j ≠ 0 ∧ d.id j = id

/-- A device that may be reported online on behalf of `fromId`: it has a slot or can get
one, and the main it is bound to is the reporting main or is online. -/
def DeviceInfo.UpAllowed (d : DeviceInfo) (id fromId : UInt32) : Prop :=
  id ≠ 0 ∧
  ((flashGetKeyValid d id = .eok ∧
      (IsSub id → getBindId d id = fromId ∨ flashGetHeart d (getBindId d id) = 1)) ∨
    (flashGetKeyValid d id = .error ∧ inRange id = true ∧ ∃ n, 1 ≤ n ∧ n ≤ 49 ∧ d.id n = 0))

/-- Taking `deviceId` away leaves online what the sender `fromId` brought online. -/
def DeviceInfo.RaisedSpared (d : DeviceInfo) (fromId deviceId : UInt32) : Prop :=
  ∀ id, d.Raises fromId id → id ≠ deviceId ∧ (IsSub id → fromId ≠ deviceId)

structure SyncKept (d : DeviceInfo) (m : Message) : Prop where
  zero : u32 m.fromId = 0 ∨ (m.type = 1 ∧ u32 m.deviceId = 0) → ¬ d.Raises 0 0
  spared : m.type = 2 ∨ m.type = 5 → d.RaisedSpared (u32 m.fromId) (u32 m.deviceId)
  dropped : m.type = 4 → ∀ id, ¬ d.Raises (u32 m.fromId) id
  allowed : m.type = 3 ∨ m.type = 6 → d.UpAllowed (u32 m.deviceId) (u32 m.fromId)
  bound : m.type = 3 ∨ m.type = 5 ∨ m.type = 6 → IsSub (u32 m.deviceId) →
    flashGetKeyValid d (u32 m.deviceId) = .error → u32 m.fromId ≠ 0

structure WarningKept (d : DeviceInfo) (m : Message) : Prop where
  zero : u32 m.fromId = 0 ∨ ((m.command = 5 ∨ m.command = 6) ∧ u32 m.deviceId = 0) →
    ¬ d.Raises 0 0
  spared : m.command = 4 → d.RaisedSpared (u32 m.fromId) (u32 m.deviceId)

def ControlKept (d : DeviceInfo) (m : Message) : Prop :=
  u32 m.fromId = 0 ∨ ((m.command = 2 ∨ (m.command = 3 ∧ m.deviceId ≠ 0) ∨ m.command = 6) ∧
    u32 m.deviceId = 0) → ¬ d.Raises 0 0

structure RadioKept (g : Gateway) (junk : Message) (buffer : List UInt8) (len : Nat) : Prop where
  normal : NormalAccepted g junk buffer len →
    u32 (parseNormal (normalFields buffer) junk).fromId = 0 → ¬ g.globalDevice.Raises 0 0
  sync : SyncAccepted g junk buffer len →
    SyncKept g.globalDevice (parseSync (gatewayFields buffer) junk)
  warning : WarningAccepted g junk buffer len →
    WarningKept g.globalDevice (parseReport (gatewayFields buffer) junk)
  control : ControlAccepted g junk buffer len →
    ControlKept g.globalDevice (parseReport (gatewayFields buffer) junk)

def EventKept (g : Gateway) : Event → Prop
  | .radio junk _ buffer len => RadioKept g junk buffer len
  | _ => True

/-- The events after which every online report is true. -/
def PresenceKept (s : Station) : StationEvent → Prop
  | .event e => EventKept s.gateway e
  | .heartRequest idBuf =>
      u32 (atol idBuf) = 0 → flashGetHeart s.gateway.globalDevice 0 = 0
  | .heartThread => s.heart.pc = .asked →
      s.gateway.globalDevice.heartRecv s.heart.num ≠ 0 →
      s.gateway.globalDevice.id s.heart.num = 0 → ¬ s.gateway.globalDevice.Raises 0 0

/-- Hearts are 0 or 1, and slaves and doors are bound. -/
structure HeartTable (d : DeviceInfo) : Prop where
  bits : ∀ n, d.heart n = 0 ∨ d.heart n = 1
  bound : ∀ n, IsSub (d.id n) → d.bindId n ≠ 0

structure PresenceInv (g : Gateway) : Prop extends RegistryInv g where
  hearts : HeartTable g.globalDevice

/-- `Online` read off the slots of a table in which ids stand once. -/
def DeviceInfo.OnlineSlot (d : DeviceInfo) (id : UInt32) : Prop :=
  id ≠ 0 ∧ ∃ n, d.id n = id ∧ d.heart n = 1 ∧
    (IsSub id → ∃ m, d.id m = d.bindId n ∧ d.heart m = 1)

/-- Every online report since the first `k` frames is true now. -/
structure Truthful (k : Nat) (g : Gateway) : Prop extends PresenceInv g where
  le : k ≤ g.cloud.length
  online : ∀ id, deviceUpFrame id ∈ g.cloud.drop k → g.globalDevice.OnlineSlot id

theorem isSub_iff {id : UInt32} : IsSub id ↔ (isSlave id || isDoor id) = true := by
  simp only [IsSub,isSlave,isDoor,Bool.or_eq_true,Bool.and_eq_true,decide_eq_true_eq,
    UInt32.le_iff_toNat_le,UInt32.lt_iff_toNat_lt,UInt32.reduceToNat]
  omega

theorem IsSub.ne_zero {id : UInt32} (h : IsSub id) : id ≠ 0 := sub_ne_zero (isSub_iff.mp h)

theorem DeviceInfo.Inv.slotValue_id {β : Type} {d : DeviceInfo} (h : d.Inv) {n : Nat}
    (hn : d.id n ≠ 0) (field : Nat → β) (absent : β) :
    slotValue d field (d.id n) absent = field n := by
  simp [slotValue,h.findSlot_id hn]

theorem flashGetHeart_one {d : DeviceInfo} {id : UInt32} (h : flashGetHeart d id = 1) :
    ∃ n, d.id n = id ∧ d.heart n = 1 := by
  unfold flashGetHeart slotValue at h
  split at h
  · rename_i n hs
    exact ⟨n,(findSlot_sound hs).2.2,h⟩
  · cases h

theorem HeartTable.heart_one {d : DeviceInfo} (h : HeartTable d) {id : UInt32}
    (hid : flashGetHeart d id ≠ 0) : flashGetHeart d id = 1 := by
  unfold flashGetHeart slotValue at hid ⊢
  split at hid
  · rename_i n hs
    exact (h.bits n).resolve_left hid
  · exact absurd rfl hid

theorem PresenceInv.online {g : Gateway} (h : PresenceInv g) {id : UInt32}
    (ho : g.globalDevice.OnlineSlot id) : g.globalDevice.Online id := by
  obtain ⟨hne,n,rfl,hheart,hsub⟩ := ho
  refine ⟨h.inv.registered_iff.mpr ⟨hne,n,rfl⟩,?_,fun hs => ?_⟩
  · rw [flashGetHeart,h.inv.slotValue_id hne,hheart]
  · obtain ⟨m,hm,hheart'⟩ := hsub hs
    have hb := h.hearts.bound n hs
    rw [getBindId,h.inv.slotValue_id hne,← hm,flashGetHeart,
      h.inv.slotValue_id (by rw [hm]; exact hb),hheart']

theorem HeartTable.clear {d : DeviceInfo} (h : HeartTable d) (id : UInt32) (n : Nat) :
    HeartTable (d.clear id n) := by
  refine ⟨h.bits,fun j hj => ?_⟩
  by_cases hjn : j = n
  · simp only [DeviceInfo.clear,hjn,Function.update_self] at hj
    exact absurd rfl hj.ne_zero
  · simp only [DeviceInfo.clear,Function.update_of_ne hjn] at hj ⊢
    exact h.bound j hj

theorem report_ne_up {f : CloudFrame} (h : f.isReport = true) (id : UInt32) :
    f ≠ deviceUpFrame id := by
  rintro rfl
  cases h

/-- Frames other than online states leave a truthful gateway truthful. -/
theorem Truthful.calm {k : Nat} {g g' : Gateway} (h : Truthful k g)
    (hnum : g'.globalDevice.num = g.globalDevice.num) (hid : g'.globalDevice.id = g.globalDevice.id)
    (hbind : g'.globalDevice.bindId = g.globalDevice.bindId)
    (hheart : g'.globalDevice.heart = g.globalDevice.heart) {fs : List CloudFrame}
    (hcloud : g'.cloud = g.cloud ++ fs) (hfs : ∀ id, deviceUpFrame id ∉ fs) : Truthful k g' := by
  have hle := h.le
  refine ⟨⟨⟨⟨h.inv.congr hnum hid hbind,?_⟩,?_⟩,⟨?_,?_⟩⟩,?_,fun id hup => ?_⟩
  · unfold KnownKinds
    rw [hid]
    exact h.kinds
  · unfold MainsUnbound
    rw [hid,hbind]
    exact h.unbound
  · rw [hheart]
    exact h.hearts.bits
  · rw [hid,hbind]
    exact h.hearts.bound
  · rw [hcloud,List.length_append]
    omega
  · rw [hcloud,List.drop_append_of_le_length hle] at hup
    have hold := h.online id ((List.mem_append.mp hup).resolve_right (hfs id))
    unfold DeviceInfo.OnlineSlot
    rw [hid,hbind,hheart]
    exact hold

theorem Truthful.still {k : Nat} {g g' : Gateway} (h : Truthful k g) (hs : Still g g') :
    Truthful k g' := by
  obtain ⟨fs,hfs,hr⟩ := hs.cloud
  exact h.calm hs.num hs.id hs.bindId hs.heart hfs
    fun id hid => report_ne_up (hr _ hid) id rfl

theorem deviceUp_cloud (x : UInt32) (g : Gateway) :
    (deviceUp x g).cloud = g.cloud ++ [.heartBeat (fmtLd x) 0,deviceUpFrame x] := by
  simp [deviceUp,heartBeatReport,Gateway.emit,deviceUpFrame]

theorem mem_deviceUp {x id : UInt32}
    (h : deviceUpFrame id ∈ [CloudFrame.heartBeat (fmtLd x) 0,deviceUpFrame x]) : id = x := by
  have hf : deviceUpFrame id = deviceUpFrame x := by simpa [deviceUpFrame] using h
  simp only [deviceUpFrame,CloudFrame.onlineState.injEq,true_and,and_true] at hf
  exact fmtLd_injective hf

/-- Only devices bound to `x` that are online are reported online, and only when the heart
that is set is not 0. -/
def OnlyRaises (x : UInt32) (v : UInt8) (g g' : Gateway) : Prop :=
  ∃ fs, g' = { g with cloud := g.cloud ++ fs } ∧
    ∀ id, deviceUpFrame id ∈ fs → v ≠ 0 ∧ ∃ j, 1 ≤ j ∧ j ≤ g.globalDevice.num ∧
      g.globalDevice.bindId j = x ∧ g.globalDevice.heart j ≠ 0 ∧ g.globalDevice.id j = id

theorem setSlaveHeartBody_ups {x : UInt32} {v : UInt8} {g g' : Gateway} {n : Nat} (h1 : 1 ≤ n)
    (hn : n ≤ g.globalDevice.num) (h : OnlyRaises x v g g') :
    OnlyRaises x v g (setSlaveHeartBody x v n g') := by
  obtain ⟨fs,rfl,hfs⟩ := h
  unfold setSlaveHeartBody
  dsimp only
  split
  · rename_i hbind
    split
    · rename_i hv
      split
      · rename_i hheart
        refine ⟨fs ++ [.heartBeat (fmtLd (g.globalDevice.id n)) 0,
          deviceUpFrame (g.globalDevice.id n)],?_,fun id hid => ?_⟩
        · simp [deviceUp,heartBeatReport,Gateway.emit,deviceUpFrame]
        · rcases List.mem_append.mp hid with hid | hid
          · exact hfs id hid
          · rw [mem_deviceUp hid]
            exact ⟨hv,n,h1,hn,hbind,hheart,rfl⟩
      · exact ⟨fs,rfl,hfs⟩
    · refine ⟨fs ++ [.onlineState 0 (fmtLd (g.globalDevice.id n)) 1 0],?_,fun id hid => ?_⟩
      · simp [deviceDown,Gateway.emit]
      · rcases List.mem_append.mp hid with hid | hid
        · exact hfs id hid
        · simp [deviceUpFrame] at hid
  · exact ⟨fs,rfl,hfs⟩

theorem setSlaveHeart_ups (x : UInt32) (v : UInt8) (g : Gateway) :
    OnlyRaises x v g (setSlaveHeart x v g) := by
  have hstart : g.globalDevice.num ≤ g.globalDevice.num ∧ OnlyRaises x v g g :=
    ⟨Nat.le_refl _,[],by simp,by simp⟩
  exact (foldDown_invariant (fun n g' => n ≤ g.globalDevice.num ∧ OnlyRaises x v g g')
    (fun n g' h => ⟨by omega,setSlaveHeartBody_ups (by omega) h.1 h.2⟩) hstart).2

theorem flashSetHeart_ups (x : UInt32) (v : UInt8) (g : Gateway) :
    ∃ fs, (flashSetHeart x v g).2.cloud = g.cloud ++ fs ∧
      ∀ id, deviceUpFrame id ∈ fs → v ≠ 0 ∧ g.globalDevice.Raises x id := by
  unfold flashSetHeart
  split
  · rename_i num hs
    have hvalid : flashGetKeyValid g.globalDevice x = .eok := by simp [flashGetKeyValid,hs]
    by_cases hv : v = 0
    · obtain ⟨fs,hfs,hups⟩ := setSlaveHeart_ups x 0 g
      simp only [hv,ne_eq,not_true_eq_false,if_false]
      split
      · refine ⟨fs,by simp only [changeHeart,hfs],fun id hid => ?_⟩
        exact absurd rfl (hups id hid).1
      · exact ⟨[],by simp,by simp⟩
    · obtain ⟨fs,hfs,hups⟩ := setSlaveHeart_ups x 1 (setHeartRecv num g)
      simp only [ne_eq,hv,not_false_eq_true,if_true]
      split
      · rename_i hzero
        have hheart : flashGetHeart g.globalDevice x = 0 := by
          rw [flashGetHeart,slotValue,hs]
          exact hzero
        refine ⟨fs,by simp only [changeHeart,hfs]; rfl,fun id hid => ?_⟩
        exact ⟨trivial,hvalid,hheart,(hups id hid).2⟩
      · exact ⟨[],by simp [setHeartRecv,Gateway.setTable],by simp⟩
  · exact ⟨[],by simp,by simp⟩

def DeviceInfo.heartSet (d : DeviceInfo) (x : UInt32) (v : UInt8) (n : Nat) : UInt8 :=
  if findSlot d x = some n then v else d.heart n

theorem flashSetHeart_heart {g : Gateway} (h : HeartTable g.globalDevice) (x : UInt32) (v : UInt8) :
    (flashSetHeart x v g).2.globalDevice.heart =
      g.globalDevice.heartSet x (if v = 0 then 0 else 1) := by
  funext j
  unfold DeviceInfo.heartSet
  cases hs : findSlot g.globalDevice x with
  | some n =>
    rw [(flashSetHeart_table (h.bits n) hs v).2.1,Function.update_apply]
    simp only [Option.some.injEq,eq_comm]
  | none => simp [flashSetHeart,hs]

theorem Still.heartTable {g g' : Gateway} (hs : Still g g') (h : HeartTable g.globalDevice) :
    HeartTable g'.globalDevice := by
  refine ⟨?_,?_⟩
  · rw [hs.heart]
    exact h.bits
  · rw [hs.id,hs.bindId]
    exact h.bound

theorem Still.raises_iff {g g' : Gateway} (hs : Still g g') (x id : UInt32) :
    g'.globalDevice.Raises x id ↔ g.globalDevice.Raises x id := by
  simp only [DeviceInfo.Raises,flashGetKeyValid,flashGetHeart,slotValue,hs.slots,hs.num,hs.id,
    hs.bindId,hs.heart]

section HeartCall
variable {x : UInt32} {v : UInt8} {g g' : Gateway} (hc : HeartCall x v g g')
include hc

theorem HeartCall.slots (y : UInt32) :
    findSlot g'.globalDevice y = findSlot g.globalDevice y := by
  simp only [findSlot,hc.sameRegistry.num,hc.sameRegistry.id]

theorem HeartCall.heart (h : HeartTable g.globalDevice) :
    g'.globalDevice.heart = g.globalDevice.heartSet x (if v = 0 then 0 else 1) := by
  obtain ⟨g1,h1,h2⟩ := hc
  rw [h2.heart,flashSetHeart_heart (h1.heartTable h)]
  funext n
  simp only [DeviceInfo.heartSet,h1.slots,h1.heart]

theorem HeartCall.ups : ∃ fs, g'.cloud = g.cloud ++ fs ∧
    ∀ id, deviceUpFrame id ∈ fs → v ≠ 0 ∧ g.globalDevice.Raises x id := by
  obtain ⟨g1,h1,h2⟩ := hc
  obtain ⟨fs1,hfs1,hr1⟩ := h1.cloud
  obtain ⟨fs2,hfs2,hups⟩ := flashSetHeart_ups x v g1
  obtain ⟨fs3,hfs3,hr3⟩ := h2.cloud
  refine ⟨fs1 ++ fs2 ++ fs3,by rw [hfs3,hfs2,hfs1]; simp,fun id hid => ?_⟩
  rcases List.mem_append.mp hid with hid | hid
  · rcases List.mem_append.mp hid with hid | hid
    · exact absurd rfl (report_ne_up (hr1 _ hid) id)
    · rw [← h1.raises_iff]
      exact hups id hid
  · exact absurd rfl (report_ne_up (hr3 _ hid) id)

end HeartCall

theorem DeviceInfo.heartSet_one {d : DeviceInfo} {x : UInt32} {n : Nat} (h : d.heart n = 1) :
    d.heartSet x 1 n = 1 := by
  simp [DeviceInfo.heartSet,h]

theorem HeartTable.heartSet {d : DeviceInfo} (h : HeartTable d) (x : UInt32) {v : UInt8}
    (hv : v = 0 ∨ v = 1) (n : Nat) : d.heartSet x v n = 0 ∨ d.heartSet x v n = 1 := by
  unfold DeviceInfo.heartSet
  split
  · exact hv
  · exact h.bits n

/-- The reports of a heart that is set: the registry stays, so they are judged by the new
hearts alone. -/
theorem Truthful.setHeart {k : Nat} {g : Gateway} (h : Truthful k g) {x : UInt32} {v : UInt8}
    (hv : v = 0 ∨ v = 1)
    (hold : ∀ id, deviceUpFrame id ∈ g.cloud.drop k ∨ (v ≠ 0 ∧ g.globalDevice.Raises x id) →
      DeviceInfo.OnlineSlot { g.globalDevice with heart := g.globalDevice.heartSet x v } id) :
    Truthful k (flashSetHeart x v g).2 := by
  have hq := flashSetHeart_quiet g x v
  have hheart := flashSetHeart_heart h.hearts x v
  have hbit : (if v = 0 then 0 else 1 : UInt8) = v := by
    rcases hv with rfl | rfl
    · rfl
    · rfl
  rw [hbit] at hheart
  obtain ⟨fs,hfs,hups⟩ := flashSetHeart_ups x v g
  have hle := h.le
  refine ⟨⟨h.toRegistryInv.edits hq.edits,⟨fun n => ?_,?_⟩⟩,?_,fun id hup => ?_⟩
  · rw [hheart]
    exact h.hearts.heartSet x hv n
  · rw [hq.id,hq.bindId]
    exact h.hearts.bound
  · rw [hfs,List.length_append]
    omega
  · rw [hfs,List.drop_append_of_le_length hle] at hup
    unfold DeviceInfo.OnlineSlot
    rw [hq.id,hq.bindId,hheart]
    refine hold id ?_
    rcases List.mem_append.mp hup with hup | hup
    · exact .inl hup
    · exact .inr (hups id hup)

/-- A device that is reported because `x` came online is online, unless it is the id 0 of a
freed slot. -/
theorem PresenceInv.raised {g : Gateway} (h : PresenceInv g) {x id : UInt32}
    (hr : g.globalDevice.Raises x id) (hx : x = 0 → ¬ g.globalDevice.Raises 0 0) :
    DeviceInfo.OnlineSlot { g.globalDevice with heart := g.globalDevice.heartSet x 1 } id := by
  have hr' := hr
  obtain ⟨hvalid,_,j,_,_,hbind,hj,hid⟩ := hr'
  have hne : id ≠ 0 := by
    intro hzero
    rw [hzero] at hid hr
    have hx0 : x = 0 := by rw [← hbind,h.inv.freeBind j hid]
    rw [hx0] at hr
    exact hx hx0 hr
  have hone : g.globalDevice.heart j = 1 := (h.hearts.bits j).resolve_left hj
  refine ⟨hne,j,hid,DeviceInfo.heartSet_one hone,fun _ => ?_⟩
  cases hs : findSlot g.globalDevice x with
  | none =>
    rw [findSlot_eq_none,hvalid] at hs
    cases hs
  | some s =>
    refine ⟨s,?_,by simp [DeviceInfo.heartSet,hs]⟩
    exact (findSlot_sound hs).2.2.trans hbind.symm

theorem Truthful.raise {k : Nat} {g : Gateway} (h : Truthful k g) {x : UInt32}
    (hx : x = 0 → ¬ g.globalDevice.Raises 0 0) : Truthful k (flashSetHeart x 1 g).2 := by
  refine h.setHeart (.inr rfl) fun id hid => ?_
  rcases hid with hup | ⟨_,hr⟩
  · obtain ⟨hne,n,hn,hone,hsub⟩ := h.online id hup
    refine ⟨hne,n,hn,DeviceInfo.heartSet_one hone,fun hs => ?_⟩
    obtain ⟨m,hm,hone'⟩ := hsub hs
    exact ⟨m,hm,DeviceInfo.heartSet_one hone'⟩
  · exact h.toPresenceInv.raised hr hx

def DeviceInfo.Spares (d : DeviceInfo) (x id : UInt32) : Prop :=
  id ≠ x ∧ (IsSub id → ∀ n, d.id n = id → d.bindId n ≠ x)

/-- A device stays online when only a slot changes that neither holds it nor its main. -/
theorem DeviceInfo.OnlineSlot.off_slot {d d' : DeviceInfo} {id : UInt32} {s : Nat}
    (ho : d.OnlineSlot id) (hdevice : ∀ n, d.id n = id → n ≠ s)
    (hmain : IsSub id → ∀ n m, d.id n = id → d.id m = d.bindId n → m ≠ s)
    (hkeep : ∀ n, n ≠ s → d'.id n = d.id n ∧ d'.bindId n = d.bindId n ∧ d'.heart n = d.heart n) :
    d'.OnlineSlot id := by
  obtain ⟨hne,n,hn,hone,hsub⟩ := ho
  obtain ⟨hid,hbind,hheart⟩ := hkeep n (hdevice n hn)
  refine ⟨hne,n,hid.trans hn,hheart.trans hone,fun hsubid => ?_⟩
  obtain ⟨m,hm,hone'⟩ := hsub hsubid
  obtain ⟨hid',_,hheart'⟩ := hkeep m (hmain hsubid n m hn hm)
  exact ⟨m,by rw [hid',hbind,hm],hheart'.trans hone'⟩

theorem DeviceInfo.OnlineSlot.of_spares {d d' : DeviceInfo} {x id : UInt32} {s : Nat}
    (ho : d.OnlineSlot id) (hspare : d.Spares x id) (hs : d.id s = x)
    (hkeep : ∀ n, n ≠ s → d'.id n = d.id n ∧ d'.bindId n = d.bindId n ∧ d'.heart n = d.heart n) :
    d'.OnlineSlot id := by
  refine ho.off_slot (fun n hn hns => ?_) (fun hsub n m hn hm hms => ?_) hkeep
  · rw [hns,hs] at hn
    exact hspare.1 hn.symm
  · rw [hms,hs] at hm
    exact hspare.2 hsub n hn hm.symm

/-- A device may go offline when no report is about it or about a device bound to it. -/
theorem Truthful.lower {k : Nat} {g : Gateway} (h : Truthful k g) {x : UInt32}
    (hspare : ∀ id, deviceUpFrame id ∈ g.cloud.drop k → g.globalDevice.Spares x id) :
    Truthful k (flashSetHeart x 0 g).2 := by
  refine h.setHeart (.inl rfl) fun id hid => ?_
  rcases hid with hup | ⟨hv,_⟩
  · cases hs : findSlot g.globalDevice x with
    | none =>
      have hsame : g.globalDevice.heartSet x 0 = g.globalDevice.heart := by
        funext n
        simp [DeviceInfo.heartSet,hs]
      rw [hsame]
      exact h.online id hup
    | some s =>
      refine (h.online id hup).of_spares (hspare id hup) (findSlot_sound hs).2.2 fun n hn => ?_
      simp [DeviceInfo.heartSet,hs,Ne.symm hn]
  · exact absurd rfl hv

theorem Truthful.delDevice {k : Nat} {g : Gateway} (h : Truthful k g) {x : UInt32}
    (hspare : ∀ id, deviceUpFrame id ∈ g.cloud.drop k → g.globalDevice.Spares x id) :
    Truthful k (delDevice x g).2 := by
  have hreg := h.toRegistryInv.edits (.delDevice x g)
  cases hs : findSlot g.globalDevice x with
  | none =>
    rw [delDevice_none hs]
    exact h
  | some s =>
    have htable := delDevice_table hs
    have hcloud := delDevice_cloud x g
    refine ⟨⟨hreg,delDevice_keeps (fun _ id n hd => hd.clear id n) x h.hearts⟩,?_,fun id hup => ?_⟩
    · rw [hcloud]
      exact h.le
    · rw [hcloud] at hup
      rw [htable]
      refine (h.online id hup).of_spares (hspare id hup) (findSlot_sound hs).2.2 fun n hn => ?_
      simp [DeviceInfo.clear,hn]

theorem localDelete_ups {k : Nat} {g : Gateway} (hle : k ≤ g.cloud.length) {x id : UInt32}
    (hup : deviceUpFrame id ∈ (localDelete x g).cloud.drop k) :
    deviceUpFrame id ∈ g.cloud.drop k := by
  obtain ⟨fs,hfs,hr⟩ := localDelete_news x g
  rw [hfs,List.drop_append_of_le_length hle] at hup
  refine (List.mem_append.mp hup).resolve_right fun hin => ?_
  rcases List.mem_cons.mp hin with heq | hin
  · cases heq
  · exact report_ne_up (hr _ hin) id rfl

theorem Truthful.localDelete {k : Nat} {g : Gateway} (h : Truthful k g) (x : UInt32) :
    Truthful k (localDelete x g) := by
  obtain ⟨fs,hfs,hr⟩ := localDelete_news x g
  rw [hfs]
  refine h.calm rfl rfl rfl rfl rfl fun id hin => ?_
  rcases List.mem_cons.mp hin with heq | hin
  · cases heq
  · exact report_ne_up (hr _ hin) id rfl

theorem deviceAdd2FlashWifi_ups {k : Nat} {g : Gateway} (hle : k ≤ g.cloud.length)
    {id b id' : UInt32} (hup : deviceUpFrame id' ∈ (deviceAdd2FlashWifi id b g).cloud.drop k) :
    deviceUpFrame id' ∈ g.cloud.drop k := by
  rw [deviceAdd2FlashWifi_news,List.drop_append_of_le_length hle] at hup
  refine (List.mem_append.mp hup).resolve_right fun hin => ?_
  split at hin
  · simp [addFrames,deviceUpFrame] at hin
  · simp at hin

/-- A registration keeps every report true; a new slave or door needs a main. -/
theorem Truthful.add {k : Nat} {g : Gateway} (h : Truthful k g) {id b : UInt32}
    (hb : IsSub id → flashGetKeyValid g.globalDevice id = .error → b ≠ 0) :
    Truthful k (deviceAdd2FlashWifi id b g) := by
  have hreg := h.toRegistryInv.edits (.add id b g)
  have hle := h.le
  have hlen : k ≤ (deviceAdd2FlashWifi id b g).cloud.length := by
    rw [deviceAdd2FlashWifi_news,List.length_append]
    omega
  rcases deviceAdd2FlashWifi_columns id b g with ⟨hid,hbind,hheart,_⟩ |
    ⟨n,hz,_,hnew,hid,hbind,hheart⟩
  · refine ⟨⟨hreg,⟨?_,?_⟩⟩,hlen,fun id' hup => ?_⟩
    · rw [hheart]
      exact h.hearts.bits
    · rw [hid,hbind]
      exact h.hearts.bound
    · unfold DeviceInfo.OnlineSlot
      rw [hid,hbind,hheart]
      exact h.online id' (deviceAdd2FlashWifi_ups hle hup)
  · refine ⟨⟨hreg,⟨fun j => ?_,fun j => ?_⟩⟩,hlen,fun id' hup => ?_⟩
    · rw [hheart]
      by_cases hj : j = n
      · exact .inr (by rw [hj,Function.update_self])
      · rw [Function.update_of_ne hj]
        exact h.hearts.bits j
    · rw [hid,hbind]
      by_cases hj : j = n
      · subst hj
        simp only [Function.update_self]
        intro hsub
        rw [if_neg (sub_not_main (isSub_iff.mp hsub))]
        exact hb hsub hnew
      · simp only [Function.update_of_ne hj]
        exact h.hearts.bound j
    · have ho := h.online id' (deviceAdd2FlashWifi_ups hle hup)
      refine ho.off_slot (s := n) (fun j hj hjn => ?_) (fun hs j m hj hm hmn => ?_) fun j hj => ?_
      · rw [hjn,hz] at hj
        exact ho.1 hj.symm
      · rw [hmn,hz] at hm
        exact h.hearts.bound j (hj ▸ hs) hm.symm
      · rw [hid,hbind,hheart]
        simp [hj]

theorem Truthful.up {k : Nat} {g : Gateway} (h : Truthful k g) {x : UInt32}
    (ho : g.globalDevice.OnlineSlot x) : Truthful k (deviceUp x g) := by
  have hcloud := deviceUp_cloud x g
  have hle := h.le
  have htable : (deviceUp x g).globalDevice = g.globalDevice := rfl
  refine ⟨⟨h.toRegistryInv.edits (.same (.of_table htable)),by rw [htable]; exact h.hearts⟩,?_,
    fun id hup => ?_⟩
  · rw [hcloud,List.length_append]
    omega
  · rw [hcloud,List.drop_append_of_le_length hle] at hup
    rw [htable]
    rcases List.mem_append.mp hup with hup | hup
    · exact h.online id hup
    · rw [mem_deviceUp hup]
      exact ho

/-- A main is dropped with its devices when nothing has been reported online yet. -/
theorem Truthful.delMainBind {k : Nat} {g : Gateway} (h : Truthful k g) {a : UInt32}
    (hno : ∀ id, deviceUpFrame id ∉ g.cloud.drop k) : Truthful k (delMainBind a g).2 := by
  have hle := h.le
  obtain ⟨_,fs,hfs,hdel⟩ := delMainBind_news a g
  refine ⟨⟨h.toRegistryInv.edits (.delMainBind a g),?_⟩,?_,fun id hup => ?_⟩
  · exact delMainBind_keeps (fun _ id n hd => hd.clear id n) a h.hearts
  · rw [hfs,List.length_append]
    omega
  · rw [hfs,List.drop_append_of_le_length hle] at hup
    rcases List.mem_append.mp hup with hup | hup
    · exact absurd hup (hno id)
    · rcases hdel.only _ hup with hr | ⟨j,_,_,_,hj⟩
      · exact absurd rfl (report_ne_up hr id)
      · cases hj

end GatewayF411
