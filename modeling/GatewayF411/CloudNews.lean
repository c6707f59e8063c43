import GatewayF411.HeartCalls
import GatewayF411.DeviceMap

set_option autoImplicit false

namespace GatewayF411
open CText SlotScan

def addFrames (id : UInt32) : List CloudFrame :=
  [.addSubdevLimit 1 0 1,.subdeviceAdd ['1','.','0'] (devicePid id) 0 (fmtLd id) 10 0]

theorem announceDevice_news (id : UInt32) (g : Gateway) :
    (announceDevice (devicePid id) id g).cloud =
      g.cloud ++ if remoteGetKeyValid g.remoteDevice id = .error then addFrames id else [] := by
  have hsilent := (flashSetUploadFlag_silent id 0 g).cloud
  unfold announceDevice
  split
  · simp [addWiFi,Gateway.emit,addFrames,hsilent]
  · simp

theorem deviceAdd2FlashWifi_remote (id b : UInt32) (g : Gateway) :
    (deviceAdd2FlashWifi id b g).remoteDevice = g.remoteDevice := by
  rw [deviceAdd2FlashWifi_eq]
  split
  · rw [(announceDevice_quiet _ _ _).remoteDevice,(registerDevice_silent _ _ _).remoteDevice]
  · rfl

/-- An id of a known kind is announced exactly when the mirror does not hold it. -/
theorem deviceAdd2FlashWifi_news (id b : UInt32) (g : Gateway) :
    (deviceAdd2FlashWifi id b g).cloud = g.cloud ++
      if inRange id = true ∧ remoteGetKeyValid g.remoteDevice id = .error then addFrames id
      else [] := by
  rw [deviceAdd2FlashWifi_eq]
  by_cases hr : inRange id = true
  · rw [if_pos hr,announceDevice_news,(registerDevice_silent _ _ _).cloud,
      (registerDevice_silent _ _ _).remoteDevice]
    simp [hr]
  · simp [hr]

theorem delMainNums_silent (g : Gateway) : Silent g (delMainNums g).2 := by
  unfold delMainNums
  dsimp only
  split <;> exact ⟨rfl,rfl,rfl⟩

theorem ifDelMainNums_silent (id : UInt32) (g : Gateway) :
    Silent g (if isMain id then (delMainNums g).2 else g) := by
  split
  · exact delMainNums_silent g
  · exact .refl g

theorem remoteDeviceDelete_cloud (id : UInt32) (g : Gateway) :
    (remoteDeviceDelete id g).2.cloud = g.cloud := by
  unfold remoteDeviceDelete
  split <;> rfl

theorem delDevice_cloud (id : UInt32) (g : Gateway) : (delDevice id g).2.cloud = g.cloud := by
  unfold delDevice
  split
  · simp only [clearSlot,remoteDeviceDelete_cloud]
    exact (ifDelMainNums_silent id g).cloud
  · rfl

theorem localDelete_news (id : UInt32) (g : Gateway) :
    ∃ fs, localDelete id g = { g with cloud := g.cloud ++ .subdevDel (fmtLd id) :: fs } ∧
      ∀ f ∈ fs, f.isReport = true := by
  unfold localDelete
  dsimp only
  split
  · obtain ⟨fs,hfs,hr⟩ := reportValue_reports (g.emit (.subdevDel (fmtLd id))) 108 0
      (getBindId g.globalDevice id)
    exact ⟨fs,by rw [hfs]; simp [Gateway.emit],hr⟩
  · exact ⟨[],rfl,by simp⟩

/-- The frames `fs` delete the ids of the slots above `n` that are bound to `a`, and no others. -/
structure DeletesBound (d : DeviceInfo) (a : UInt32) (n : Nat) (fs : List CloudFrame) : Prop where
  only : ∀ f ∈ fs, f.isReport = true ∨
    ∃ j, n < j ∧ j ≤ d.num ∧ d.BoundTo a j ∧ f = .subdevDel (fmtLd (d.id j))
  all : ∀ j, n < j → j ≤ d.num → d.BoundTo a j → .subdevDel (fmtLd (d.id j)) ∈ fs

/-- `Del_MainBind` after the slots above `n`: these were deleted from the cloud, the others
are as they were, and the mirror is untouched. -/
structure DeletedAbove (g : Gateway) (a : UInt32) (n : Nat) (g' : Gateway) : Prop where
  le : n ≤ g.globalDevice.num
  below : ∀ j, j ≤ n → g'.globalDevice.id j = g.globalDevice.id j ∧
    g'.globalDevice.bindId j = g.globalDevice.bindId j
  remoteDevice : g'.remoteDevice = g.remoteDevice
  cloud : ∃ fs, g'.cloud = g.cloud ++ fs ∧ DeletesBound g.globalDevice a n fs

theorem delMainBindBody_news {a : UInt32} {n : Nat} {g : Gateway}
    (h : g.globalDevice.bindId n = a ∨ g.globalDevice.id n = a) :
    (delMainBindBody a n g).remoteDevice = g.remoteDevice ∧
    ∃ fs, (delMainBindBody a n g).cloud =
        g.cloud ++ .subdevDel (fmtLd (g.globalDevice.id n)) :: fs ∧ ∀ f ∈ fs, f.isReport = true := by
  have hid : (if isMain a then (delMainNums g).2 else g).globalDevice.id n =
      g.globalDevice.id n := by rw [ifDelMainNums_table]
  obtain ⟨hcloud,hremote,-⟩ := ifDelMainNums_silent a g
  obtain ⟨fs,hfs,hr⟩ := localDelete_news (g.globalDevice.id n)
    (if isMain a then (delMainNums g).2 else g)
  simp only [delMainBindBody,h,if_true,clearSlot,hid,hfs,hcloud,hremote]
  exact ⟨trivial,fs,rfl,hr⟩

theorem DeletedAbove.step {g g' : Gateway} {a : UInt32} {n : Nat}
    (h : DeletedAbove g a (n+1) g') : DeletedAbove g a n (delMainBindBody a (n+1) g') := by
  have hle := h.le
  obtain ⟨hid,hbind⟩ := h.below (n+1) (Nat.le_refl _)
  obtain ⟨fs,hfs,hdel⟩ := h.cloud
  by_cases hb : g'.globalDevice.bindId (n+1) = a ∨ g'.globalDevice.id (n+1) = a
  · have hbound : g.globalDevice.BoundTo a (n+1) := by
      unfold DeviceInfo.BoundTo
      rw [← hid,← hbind]
      exact hb
    obtain ⟨hremote,fs',hfs',hr'⟩ := delMainBindBody_news hb
    refine ⟨by omega,fun j hj => ?_,hremote.trans h.remoteDevice,
      fs ++ .subdevDel (fmtLd (g'.globalDevice.id (n+1))) :: fs',?_,?_,?_⟩
    · have hne : j ≠ n+1 := by omega
      rw [delMainBindBody_table hb]
      simp only [DeviceInfo.clear,Function.update_of_ne hne]
      exact h.below j (by omega)
    · rw [hfs',hfs,List.append_assoc]
    · intro f hf
      rcases List.mem_append.mp hf with hf | hf
      · rcases hdel.only f hf with hr | ⟨j,hj,hrest⟩
        · exact .inl hr
        · exact .inr ⟨j,by omega,hrest⟩
      · rcases List.mem_cons.mp hf with rfl | hf
        · exact .inr ⟨n+1,by omega,by omega,hbound,by rw [hid]⟩
        · exact .inl (hr' f hf)
    · intro j hj hjn hjb
      by_cases hjeq : j = n+1
      · subst hjeq
        simp [hid]
      · exact List.mem_append_left _ (hdel.all j (by omega) hjn hjb)
  · have hnot : ¬ g.globalDevice.BoundTo a (n+1) := by
      unfold DeviceInfo.BoundTo
      rw [← hid,← hbind]
      exact hb
    rw [delMainBindBody_skip hb]
    refine ⟨by omega,fun j hj => h.below j (by omega),h.remoteDevice,fs,hfs,?_,?_⟩
    · intro f hf
      rcases hdel.only f hf with hr | ⟨j,hj,hrest⟩
      · exact .inl hr
      · exact .inr ⟨j,by omega,hrest⟩
    · intro j hj hjn hjb
      by_cases hjeq : j = n+1
      · subst hjeq
        exact absurd hjb hnot
      · exact hdel.all j (by omega) hjn hjb

/-- `Del_MainBind` deletes the main and what is bound to it from the cloud, not from the mirror. -/
theorem delMainBind_news (a : UInt32) (g : Gateway) :
    (delMainBind a g).2.remoteDevice = g.remoteDevice ∧
    ∃ fs, (delMainBind a g).2.cloud = g.cloud ++ fs ∧ DeletesBound g.globalDevice a 0 fs := by
  have hstart : DeletedAbove g a g.globalDevice.num g := by
    refine ⟨Nat.le_refl _,fun _ _ => ⟨rfl,rfl⟩,rfl,[],by simp,by simp,?_⟩
    intro j hj hjn
    omega
  have hend := foldDown_invariant (fun n g' => DeletedAbove g a n g') (fun _ _ h => h.step) hstart
  exact ⟨hend.remoteDevice,hend.cloud⟩

theorem subdevNodes_remote (packet : List UInt8) (count left offset : Nat) (nodes : Nat → UInt8)
    (g : Gateway) :
    ∃ r, subdevNodes packet count left offset nodes g = { g with remoteDevice := r } := by
  induction left generalizing offset nodes g with
  | zero => exact ⟨g.remoteDevice,rfl⟩
  | succ left ih =>
    obtain ⟨r,hr⟩ := ih _ _ (remoteDeviceAdd _ g)
    exact ⟨r,by rw [subdevNodes,hr]; rfl⟩

theorem localSubdevList_still (mallocOk : Bool) (packet : List UInt8) (g : Gateway) :
    ∃ r, Still { g with remoteDevice := r } (localSubdevList mallocOk packet g) := by
  unfold localSubdevList
  dsimp only
  split
  · obtain ⟨r,hr⟩ := subdevNodes_remote packet (packet.getD 1 0).toNat (packet.getD 1 0).toNat 2
      (fun _ => 0) g
    refine ⟨r,?_⟩
    rw [hr]
    split
    · exact syncRequest_still _
    · exact .refl _
  · exact ⟨g.remoteDevice,syncRequest_still g⟩

end GatewayF411
