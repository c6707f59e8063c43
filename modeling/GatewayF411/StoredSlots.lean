import GatewayF411.Storage

set_option autoImplicit false

namespace GatewayF411
open CText SlotScan SlotMap

/-- The mark, the ids and the bindings stay, in the table and in the environment. -/
structure FlashKept (g g' : Gateway) : Prop where
  num : g'.globalDevice.num = g.globalDevice.num
  id : g'.globalDevice.id = g.globalDevice.id
  bindId : g'.globalDevice.bindId = g.globalDevice.bindId
  storedNum : storedNum g'.env = storedNum g.env
  storedId : storedId g'.env = storedId g.env
  storedBind : ∀ k, flashGetKeyValue .bind k g'.env = flashGetKeyValue .bind k g.env

theorem FlashKept.refl (g : Gateway) : FlashKept g g := ⟨rfl,rfl,rfl,rfl,rfl,fun _ => rfl⟩

theorem FlashKept.trans {g g' g'' : Gateway} (h : FlashKept g g') (h' : FlashKept g' g'') :
    FlashKept g g'' :=
  ⟨h'.num.trans h.num,h'.id.trans h.id,h'.bindId.trans h.bindId,h'.storedNum.trans h.storedNum,
    h'.storedId.trans h.storedId,fun k => (h'.storedBind k).trans (h.storedBind k)⟩

theorem FlashKept.iteLeft {g g' : Gateway} (b : Prop) [Decidable b] (h : FlashKept g g') :
    FlashKept g (if b then g' else g) := by
  split
  · exact h
  · exact .refl g

theorem FlashKept.of_env {g g' : Gateway} (hs : SameRegistry g g') (he : g'.env = g.env) :
    FlashKept g g' := by
  refine ⟨hs.num,hs.id,hs.bindId,?_,?_,fun k => ?_⟩ <;> rw [he]

theorem OnlyEmits.flashKept {g g' : Gateway} (h : OnlyEmits g g') : FlashKept g g' := by
  obtain ⟨fs,rfl⟩ := h
  exact .of_env ⟨rfl,rfl,rfl,rfl⟩ rfl

theorem FlashKept.write {g g' : Gateway} (hs : SameRegistry g g') {t : EnvType} (hid : t ≠ .id)
    (hbind : t ≠ .bind) {k v : UInt32} (he : g'.env = flashChange t k v g.env) :
    FlashKept g g' := by
  refine ⟨hs.num,hs.id,hs.bindId,?_,?_,fun j => ?_⟩
  · rw [he,storedNum_flashChange]
  · rw [he,storedId_flashChange _ hid]
  · rw [he,flashGetKeyValue_flashChange,if_neg fun h => hbind h.1.symm]

section
variable (g : Gateway)

theorem gatewayDataEnqueue_flashKept (t i : UInt32) (r c v : UInt8) :
    FlashKept g (gatewayDataEnqueue t i r c v g) := .of_env ⟨rfl,rfl,rfl,rfl⟩ rfl

theorem ackFrame_flashKept (m : Message) : FlashKept g (ackFrame m g) :=
  .iteLeft _ (gatewayDataEnqueue_flashKept g _ _ _ _ _)

theorem flashSetRssi_flashKept (id : UInt32) (v : UInt8) : FlashKept g (flashSetRssi id v g).2 := by
  refine .of_env (flashSetRssi_quiet g id v).sameRegistry ?_
  unfold flashSetRssi
  split <;> rfl

theorem flashSetMoto_flashKept (id : UInt32) (v : UInt8) : FlashKept g (flashSetMoto id v g).2 := by
  refine .of_env (flashSetMoto_quiet g id v).sameRegistry ?_
  unfold flashSetMoto
  split <;> rfl

theorem flashSetUploadFlag_flashKept (id : UInt32) (v : UInt8) :
    FlashKept g (flashSetUploadFlag id v g).2 := by
  have hs := (flashSetUploadFlag_quiet g id v).sameRegistry
  cases hf : findSlot g.globalDevice id with
  | none =>
    simp only [flashSetUploadFlag,hf]
    exact .refl g
  | some n =>
    refine .write (t := .upload) (k := id) (v := v.toUInt32) hs (by decide) (by decide) ?_
    simp only [flashSetUploadFlag,hf,flashUploadFlagChange]

theorem changeHeart_flashKept (n : Nat) (id : UInt32) (v : UInt8) :
    FlashKept g (changeHeart n id v g) := by
  obtain ⟨fs,hfs⟩ := setSlaveHeart_onlyEmits g id v
  refine .write (t := .heart) (k := id) (v := v.toUInt32) (changeHeart_quiet g n id v).sameRegistry
    (by decide) (by decide) ?_
  simp only [changeHeart,hfs,flashHeartChange]

theorem flashSetHeart_flashKept (id : UInt32) (v : UInt8) :
    FlashKept g (flashSetHeart id v g).2 := by
  have hrecv : ∀ n, FlashKept g (setHeartRecv n g) := fun n => .of_env ⟨rfl,rfl,rfl,rfl⟩ rfl
  unfold flashSetHeart
  split
  · split
    · exact (hrecv _).trans (.iteLeft _ (changeHeart_flashKept _ _ _ _))
    · exact .iteLeft _ (changeHeart_flashKept g _ _ _)
  · exact .refl g

theorem heartUpload_flashKept (id : UInt32) (v : UInt8) : FlashKept g (heartUpload id v g) :=
  (OnlyEmits.emit _ g).flashKept.trans (flashSetHeart_flashKept _ _ _)

theorem slaveHeart_flashKept (id : UInt32) (v : UInt8) : FlashKept g (slaveHeart id v g) :=
  (flashSetRssi_flashKept g _ _).trans (reportEnum_onlyEmits _ _ _ _).flashKept

theorem motoUpload_flashKept (id : UInt32) (v : UInt8) : FlashKept g (motoUpload id v g) :=
  (reportBool_onlyEmits g _ _ _).flashKept.trans <|
    (flashSetMoto_flashKept _ _ _).trans (reportBool_onlyEmits _ _ _ _).flashKept

theorem deviceSeen_flashKept (m : Message) : FlashKept g (deviceSeen m g) :=
  (flashSetHeart_flashKept g _ _).trans (slaveHeart_flashKept _ _ _)

theorem syncRefresh_flashKept : FlashKept g (syncRefresh g) := by
  refine .of_env (syncRefresh_sameRegistry g) ?_
  unfold syncRefresh
  split <;> rfl

theorem warningCommand_flashKept (m : Message) : FlashKept g (warningCommand m g) := by
  have hwarn : ∀ (g : Gateway) type,
      FlashKept g (wariningUpload (u32 m.fromId) (u32 m.deviceId) type (u8 m.data) g) :=
    fun g type => (wariningUpload_onlyEmits g _ _ type _).flashKept
  unfold warningCommand
  split
  · exact hwarn g 1
  · exact hwarn g 0
  · exact hwarn g 2
  · exact flashSetHeart_flashKept g _ _
  · exact (deviceSeen_flashKept g m).trans ((hwarn _ 1).trans (motoUpload_flashKept _ _ _))
  · exact (deviceSeen_flashKept g m).trans (hwarn _ 2)
  · exact (initWarnMain_onlyEmits g _).flashKept
  · exact hwarn g 3
  · exact hwarn g 3
  · exact .refl g

theorem controlCommand_flashKept (m : Message) : FlashKept g (controlCommand m g) := by
  have hmoto : ∀ (g : Gateway) v, FlashKept g (motoUpload (u32 m.fromId) v g) :=
    fun g v => motoUpload_flashKept g _ v
  unfold controlCommand
  split
  · exact (hmoto g _).trans (.iteLeft _ (closeWarnMain_onlyEmits _ _).flashKept)
  · refine (deviceSeen_flashKept g m).trans ?_
    split
    · exact (hmoto _ _).trans (.iteLeft _ (closeWarnSlave_onlyEmits _ _).flashKept)
    · exact hmoto _ 0
  · split
    · exact (doorDelayWiFi_onlyEmits g _ _ _).flashKept.trans (deviceSeen_flashKept _ m)
    · exact .refl g
  · exact hmoto g _
  · exact (syncRefresh_flashKept g).trans <| (hmoto _ _).trans <|
      (gatewayDataEnqueue_flashKept _ _ _ _ _ _).trans (initWarnMain_onlyEmits _ _).flashKept
  · refine (reportBool_onlyEmits g 104 (u8 m.data) (u32 m.deviceId)).flashKept.trans ?_
    refine (deviceSeen_flashKept _ m).trans ((hmoto _ (u8 m.data)).trans ?_)
    exact .iteLeft _ (closeWarnSlave_onlyEmits _ _).flashKept
  · exact .refl g

theorem syncOnline_flashKept (m : Message) : FlashKept
    (deviceAdd2FlashWifi (u32 m.deviceId) (u32 m.fromId) g) (syncOnline m g) := by
  unfold syncOnline
  exact (flashSetHeart_flashKept _ _ _).trans <| (deviceUp_onlyEmits _ _).flashKept.trans <|
    (slaveHeart_flashKept _ _ _).trans (wariningUpload_onlyEmits _ _ _ _ _).flashKept

theorem syncOffline_flashKept (m : Message) : FlashKept
    (deviceAdd2FlashWifi (u32 m.deviceId) (u32 m.fromId) g) (syncOffline m g) := by
  unfold syncOffline
  exact (flashSetHeart_flashKept _ _ _).trans <| (slaveHeart_flashKept _ _ _).trans
    (wariningUpload_onlyEmits _ _ _ _ _).flashKept

theorem dpDownloadControlStateHandle_flashKept (value subId : List UInt8) :
    FlashKept g (dpDownloadControlStateHandle value subId g).2 := by
  have hq : FlashKept g (if value.getD 0 0 = 0 then motoCloseRemote (u32 (atol (cString subId 0))) g
      else motoOpenRemote (u32 (atol (cString subId 0))) g) := by
    split <;> exact gatewayDataEnqueue_flashKept g _ _ _ _ _
  unfold dpDownloadControlStateHandle
  dsimp only
  generalize (if value.getD 0 0 = 0 then motoCloseRemote (u32 (atol (cString subId 0))) g
    else motoOpenRemote (u32 (atol (cString subId 0))) g) = g1 at hq ⊢
  split <;> exact hq.trans (mcuDpUpdate_onlyEmits g1 _).flashKept

theorem getNextMain_env : (getNextMain g).2.env = g.env := by
  unfold getNextMain
  dsimp only
  split <;> rfl

theorem syncRequest_env : (syncRequest g).env = g.env := getNextMain_env _

theorem syncTimeout_env : (syncTimeout g).env = g.env := by
  unfold syncTimeout syncTimeoutCallback
  split
  · have h := getNextMain_env { g with sync := { g.sync with timeoutT := false } }
    split
    · rename_i g2 hg2
      rw [hg2] at h
      exact h
    · rename_i g2 hg2
      rw [hg2] at h
      exact h
  · rfl

theorem subdevNodes_env (packet : List UInt8) (count left offset : Nat) (nodes : Nat → UInt8) :
    (subdevNodes packet count left offset nodes g).env = g.env := by
  induction left generalizing offset nodes g with
  | zero => rfl
  | succ left ih =>
    rw [subdevNodes,ih]
    rfl

theorem localSubdevList_env (mallocOk : Bool) (packet : List UInt8) :
    (localSubdevList mallocOk packet g).env = g.env := by
  unfold localSubdevList
  dsimp only
  split
  · split
    · rw [syncRequest_env,subdevNodes_env]
    · rw [subdevNodes_env]
  · rw [syncRequest_env]

theorem syncWait_env : (syncWait g).env = g.env := by
  unfold syncWait
  dsimp only
  split <;> rfl

theorem syncSettle_flashKept :
    FlashKept (if g.globalDevice.id g.sync.counter = 0 then g
      else deviceAdd2FlashWifi (g.globalDevice.id g.sync.counter) 0 g) (syncSettle g) := by
  refine .of_env (syncSettle_sameRegistry g) ?_
  unfold syncSettle
  dsimp only
  split
  · rfl
  · generalize deviceAdd2FlashWifi (g.globalDevice.id g.sync.counter) 0 g = g1
    split
    · rfl
    · have h := getNextMain_env { g1 with sync := { g1.sync with timeoutT := false, pc := .take } }
      split
      · rename_i g2 hg2
        rw [hg2] at h
        exact h
      · rename_i g2 hg2
        rw [hg2] at h
        exact h

theorem setMainNums_flashKept (n : Nat) : FlashKept g (setMainNums n g) := by
  refine ⟨rfl,rfl,rfl,?_,?_,fun k => ?_⟩ <;> simp [setMainNums]

theorem addMainNums_flashKept : FlashKept g (addMainNums g).2 := by
  unfold addMainNums
  dsimp only
  split
  · exact setMainNums_flashKept g _
  · exact .refl g

theorem ifDelMainNums_flashKept (id : UInt32) :
    FlashKept g (if isMain id then (delMainNums g).2 else g) := by
  refine .iteLeft _ ?_
  unfold delMainNums
  dsimp only
  split
  · exact setMainNums_flashKept g _
  · exact .refl g

end

/-- Slots may be freed, in the table and in the environment alike; of the bindings that are
stored only that of `a` may change. -/
structure Freed (a : UInt32) (g g' : Gateway) : Prop where
  num : g'.globalDevice.num = g.globalDevice.num
  storedNum : storedNum g'.env = storedNum g.env
  slots : ∀ n, (g'.globalDevice.id n = g.globalDevice.id n ∧
      g'.globalDevice.bindId n = g.globalDevice.bindId n ∧ storedId g'.env n = storedId g.env n) ∨
    (g'.globalDevice.id n = 0 ∧ g'.globalDevice.bindId n = 0 ∧ storedId g'.env n = 0)
  bind : ∀ k, k ≠ a → flashGetKeyValue .bind k g'.env = flashGetKeyValue .bind k g.env

theorem FlashKept.freed {g g' : Gateway} (h : FlashKept g g') (a : UInt32) : Freed a g g' :=
  ⟨h.num,h.storedNum,fun n => .inl ⟨by rw [h.id],by rw [h.bindId],by rw [h.storedId]⟩,
    fun k _ => h.storedBind k⟩

theorem Freed.trans {a : UInt32} {g g' g'' : Gateway} (h : Freed a g g') (h' : Freed a g' g'') :
    Freed a g g'' := by
  refine ⟨h'.num.trans h.num,h'.storedNum.trans h.storedNum,fun n => ?_,
    fun k hk => (h'.bind k hk).trans (h.bind k hk)⟩
  rcases h'.slots n with ⟨hid,hb,hs⟩ | hz
  · rw [hid,hb,hs]
    exact h.slots n
  · exact .inr hz

/-- A deletion: slots are freed, and no slot is left with the id whose stored binding changed. -/
structure Cleared (a : UInt32) (g g' : Gateway) : Prop extends Freed a g g' where
  gone : a ≠ 0 → ∀ n, g'.globalDevice.id n ≠ a

theorem FlashKept.cleared {g g' : Gateway} (h : FlashKept g g') : Cleared 0 g g' :=
  ⟨h.freed 0,fun hne => absurd rfl hne⟩

theorem Cleared.after {a : UInt32} {g g' g'' : Gateway} (h : FlashKept g g')
    (h' : Cleared a g' g'') : Cleared a g g'' := ⟨(h.freed a).trans h'.toFreed,h'.gone⟩

theorem Cleared.before {a : UInt32} {g g' g'' : Gateway} (h : Cleared a g g')
    (h' : FlashKept g' g'') : Cleared a g g'' :=
  ⟨h.toFreed.trans (h'.freed a),fun ha n => by rw [h'.id]; exact h.gone ha n⟩

/-- What is left in the table after a deletion has its binding stored as before. -/
theorem Cleared.bind_kept {a : UInt32} {g g' : Gateway} (h : Cleared a g g') {n : Nat}
    (hn : g'.globalDevice.id n ≠ 0) :
    flashGetKeyValue .bind (g'.globalDevice.id n) g'.env =
      flashGetKeyValue .bind (g'.globalDevice.id n) g.env := by
  refine h.bind _ fun ha => ?_
  exact h.gone (fun h0 => hn (ha.trans h0)) n ha

theorem clearSlot_freed {n : Nat} (h1 : 1 ≤ n) (hn : n ≤ 49) (key : UInt32) (g : Gateway) :
    Freed key g (clearSlot n key g) := by
  have hids : storedId (clearSlot n key g).env = Function.update (storedId g.env) n 0 := by
    simp only [clearSlot,flashUploadFlagChange,flashBindChange]
    rw [storedId_flashChange _ (by decide),storedId_flashChange _ (by decide),
      storedId_flashIdChange _ h1 hn]
  refine ⟨rfl,?_,fun j => ?_,fun k hk => ?_⟩
  · simp [clearSlot,flashUploadFlagChange,flashBindChange,flashIdChange]
  · rw [hids]
    by_cases hj : j = n
    · exact .inr (by simp [clearSlot,hj])
    · exact .inl (by simp [clearSlot,hj])
  · simp [clearSlot,flashUploadFlagChange,flashBindChange,flashIdChange,hk]

theorem delDevice_cleared {g : Gateway} (h : g.globalDevice.Inv) (id : UInt32) :
    Cleared id g (delDevice id g).2 := by
  cases hs : findSlot g.globalDevice id with
  | none =>
    rw [delDevice_none hs]
    exact ⟨(FlashKept.refl g).freed id,fun hid => (h.fresh_iff hid).mp (findSlot_eq_none.mp hs)⟩
  | some n =>
    obtain ⟨h1,hn,hidn⟩ := findSlot_sound hs
    have hle := h.num_le
    have hremote : ∀ g', FlashKept g' (remoteDeviceDelete id g').2 := fun g' =>
      .of_env (.of_table (remoteDeviceDelete_table id g')) (remoteDeviceDelete_env id g')
    have hkept := (ifDelMainNums_flashKept g id).trans (hremote _)
    have hclear := (hkept.freed id).trans (clearSlot_freed h1 (by omega) id _)
    refine ⟨by simpa only [delDevice,hs] using hclear,fun hid j hj => ?_⟩
    rw [delDevice_table hs,DeviceInfo.clear_id] at hj
    by_cases hjn : j = n
    · rw [hjn,Function.update_self] at hj
      exact hid hj.symm
    · rw [Function.update_of_ne hjn] at hj
      exact hjn (h.keyed.distinct j n (by rw [hj]; exact hid) (by rw [hj,hidn]))

/-- The loop of `Del_MainBind` with the slots above `n` done: they no longer hold `a`. -/
theorem delMainBindBody_freed {g s : Gateway} {a : UInt32} {n : Nat}
    (h : n+1 ≤ 49 ∧ Freed a g s ∧ ∀ j, n+1 < j → a ≠ 0 → s.globalDevice.id j ≠ a) :
    n ≤ 49 ∧ Freed a g (delMainBindBody a (n+1) s) ∧
      ∀ j, n < j → a ≠ 0 → (delMainBindBody a (n+1) s).globalDevice.id j ≠ a := by
  obtain ⟨hle,hfreed,hdone⟩ := h
  by_cases hb : s.globalDevice.bindId (n+1) = a ∨ s.globalDevice.id (n+1) = a
  · refine ⟨by omega,?_,fun j hj ha => ?_⟩
    · have hkept := (ifDelMainNums_flashKept s a).trans (localDelete_onlyEmits _
        ((if isMain a then (delMainNums s).2 else s).globalDevice.id (n+1))).flashKept
      have hclear := (hkept.freed a).trans (clearSlot_freed (Nat.succ_pos n) hle a _)
      exact hfreed.trans (by simpa only [delMainBindBody,hb,if_true] using hclear)
    · rw [delMainBindBody_table hb,DeviceInfo.clear_id]
      by_cases hjn : j = n+1
      · rw [hjn,Function.update_self]
        exact ha.symm
      · rw [Function.update_of_ne hjn]
        exact hdone j (by omega) ha
  · rw [delMainBindBody_skip hb]
    refine ⟨by omega,hfreed,fun j hj ha => ?_⟩
    by_cases hjn : j = n+1
    · rw [hjn]
      exact fun hid => hb (.inr hid)
    · exact hdone j (by omega) ha

theorem delMainBind_cleared {g : Gateway} (h : g.globalDevice.Inv) (a : UInt32) :
    Cleared a g (delMainBind a g).2 := by
  have hstart : g.globalDevice.num ≤ 49 ∧ Freed a g g ∧
      ∀ j, g.globalDevice.num < j → a ≠ 0 → g.globalDevice.id j ≠ a := by
    refine ⟨h.num_le,(FlashKept.refl g).freed a,fun j hj ha hja => ?_⟩
    have hb := h.keyed.bounded j (by rw [hja]; exact ha)
    omega
  obtain ⟨_,hfreed,hgone⟩ := foldDown_invariant
    (fun n (s : Gateway) => n ≤ 49 ∧ Freed a g s ∧ ∀ j, n < j → a ≠ 0 → s.globalDevice.id j ≠ a)
    (fun n s hs => delMainBindBody_freed hs) hstart
  refine ⟨hfreed,fun ha n hn => ?_⟩
  have hb := (delMainBind_inv (m := a) h).keyed.bounded n (by rw [hn]; exact ha)
  exact hgone n (by omega) ha hn

end GatewayF411
