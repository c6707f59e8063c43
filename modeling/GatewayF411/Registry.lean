import GatewayF411.Table

/-!
What one event can do to the registry of devices, said once: it is a sequence of
registrations and deletions. Every property that these keep holds in all reachable states.
-/

set_option autoImplicit false

namespace GatewayF411
open CText SlotScan

inductive Edits : Gateway → Gateway → Prop where
  | same {g g' : Gateway} : SameRegistry g g' → Edits g g'
  | delDevice (id : UInt32) (g : Gateway) : Edits g (delDevice id g).2
  | delMainBind (id : UInt32) (g : Gateway) : Edits g (delMainBind id g).2
  | add (id fromId : UInt32) (g : Gateway) : Edits g (deviceAdd2FlashWifi id fromId g)
  | trans {g g' g'' : Gateway} : Edits g g' → Edits g' g'' → Edits g g''

theorem Edits.refl (g : Gateway) : Edits g g := .same (.refl g)

theorem Quiet.edits {g g' : Gateway} (h : Quiet g g') : Edits g g' := .same h.sameRegistry

theorem deviceLearn_edits (g : Gateway) (m : Message) : Edits g (deviceLearn m g) := by
  unfold deviceLearn
  split
  · exact .refl g
  · split
    · split
      · exact (radioEnqueue_quiet g _ _ _ _).edits
      · exact .trans (.delDevice _ _) (.add _ _ _)
      · exact .refl g
    · exact .refl g

theorem normalSolve_edits (g : Gateway) (junk : Message) (buffer : List UInt8) (len : Nat) :
    Edits g (normalSolve junk buffer len g) := by
  unfold normalSolve
  dsimp only
  split
  · split
    · split
      · exact .refl g
      · refine .trans ?_ (heartUpload_quiet _ _ _).edits
        split
        · exact deviceLearn_edits g _
        · exact .refl g
    · exact .refl g
  · exact .refl g

theorem syncCommand_edits (g : Gateway) (m : Message) : Edits g (syncCommand m g) := by
  have hrefresh : Edits g (syncRefresh g) := .same (syncRefresh_sameRegistry g)
  unfold syncCommand
  split
  · exact (deviceSeen_quiet g m).edits
  · exact .trans (localDelete_onlyEmits g _).quiet.edits (.delDevice _ _)
  · exact .trans hrefresh (.trans (.add _ _ _) (syncOnline_quiet _ m).edits)
  · exact .delMainBind _ _
  · exact .trans hrefresh (.trans (.add _ _ _) (syncOffline_quiet _ m).edits)
  · exact .trans (.add _ _ _) (syncOnline_quiet _ m).edits
  · exact .refl g

theorem gatewaySyncSolve_edits (g : Gateway) (junk : Message) (rssi : Int) (buffer : List UInt8)
    (len : Nat) : Edits g (gatewaySyncSolve junk rssi buffer len g) := by
  unfold gatewaySyncSolve
  dsimp only
  split
  · split
    · refine .trans ?_ (syncCommand_edits _ _)
      exact ((ackFrame_quiet _ _).trans <| (mainRssiReport_onlyEmits _ _ _).quiet.trans
        (heartUpload_quiet _ _ _)).edits
    · exact .refl g
  · exact .refl g

theorem rf433RxCallback_edits (g : Gateway) (junk : Message) (rssi : Int) (buffer : List UInt8)
    (len : Nat) : Edits g (rf433RxCallback junk rssi buffer len g) := by
  unfold rf433RxCallback
  split
  · exact normalSolve_edits g junk buffer len
  · exact gatewaySyncSolve_edits g junk rssi buffer len
  · exact .same (gatewayWarningSolve_sameRegistry g junk rssi buffer len)
  · exact .same (gatewayControlSolve_sameRegistry g junk rssi buffer len)
  · exact .refl g

theorem subdeviceDelete_edits (g : Gateway) (subId : Text) : Edits g (subdeviceDelete subId g) := by
  have hdel : Edits g (delDevice (u32 (atol subId)) (gatewayDataEnqueue
      (getBindId g.globalDevice (u32 (atol subId))) (u32 (atol subId)) 0 6 0 g)).2 :=
    .trans (gatewayDataEnqueue_quiet g _ _ 0 6 0).edits (.delDevice _ _)
  unfold subdeviceDelete remoteDelete
  dsimp only
  split
  · exact .trans hdel ((reportValue_onlyEmits _ _ _ _).trans (.emit _ _)).quiet.edits
  · exact .trans hdel (OnlyEmits.emit _ _).quiet.edits

theorem syncThread_edits (g : Gateway) : Edits g (syncThread g) := by
  unfold syncThread
  split
  · split <;> exact .same (.of_table rfl)
  · refine .trans ?_ (.same (syncSettle_sameRegistry g))
    split
    · exact .refl g
    · exact .add _ _ g
  · exact .same (syncWait_sameRegistry g)

theorem step_edits (g : Gateway) (e : Event) : Edits g (step g e) := by
  cases e with
  | radio junk rssi buffer len => exact rf433RxCallback_edits g junk rssi buffer len
  | subdeviceDelete subId => exact subdeviceDelete_edits g subId
  | subdevList mallocOk packet => exact .same (.of_table (localSubdevList_table g mallocOk packet))
  | controlState value subId => exact (dpDownloadControlStateHandle_quiet g value subId).edits
  | syncThread => exact syncThread_edits g
  | syncTimeout => exact .same (.of_table (syncTimeout_table g))
  | radioDequeue => exact .same (.of_table rfl)

theorem run_edits (g : Gateway) (es : List Event) : Edits g (run g es) := by
  induction es generalizing g with
  | nil => exact .refl g
  | cons e es ih => exact .trans (step_edits g e) (ih (step g e))

/-- Every id in the table is that of a main, a slave or a door. -/
def KnownKinds (d : DeviceInfo) : Prop := ∀ n, d.id n ≠ 0 → inRange (d.id n) = true

theorem KnownKinds.clear {d : DeviceInfo} (h : KnownKinds d) (id : UInt32) (n : Nat) :
    KnownKinds (d.clear id n) := by
  intro j hj
  by_cases hjn : j = n
  · simp [DeviceInfo.clear,hjn] at hj
  · simp only [DeviceInfo.clear,Function.update_of_ne hjn] at hj ⊢
    exact h j hj

theorem KnownKinds.add {g : Gateway} (h : KnownKinds g.globalDevice) (id fromId : UInt32) :
    KnownKinds (deviceAdd2FlashWifi id fromId g).globalDevice := by
  by_cases hr : inRange id = true
  · intro n hn
    rcases deviceAdd2FlashWifi_slot id fromId g n with hkeep | ⟨_,hnew⟩
    · rw [hkeep] at hn ⊢
      exact h n hn
    · rw [hnew]
      exact hr
  · rw [deviceAdd2FlashWifi_eq,if_neg hr]
    exact h

/-- The table keeps its shape and holds only mains, slaves and doors. -/
structure WellKept (g : Gateway) : Prop where
  inv : g.globalDevice.Inv
  kinds : KnownKinds g.globalDevice

theorem WellKept.edits {g g' : Gateway} (h : WellKept g) (he : Edits g g') : WellKept g' := by
  induction he with
  | same hs =>
    refine ⟨h.inv.congr hs.num hs.id hs.bindId,fun n hn => ?_⟩
    rw [hs.id] at hn ⊢
    exact h.kinds n hn
  | delDevice id g =>
    exact ⟨delDevice_inv h.inv,delDevice_keeps (fun _ id n hd => hd.clear id n) id h.kinds⟩
  | delMainBind id g =>
    exact ⟨delMainBind_inv h.inv,delMainBind_keeps (fun _ id n hd => hd.clear id n) id h.kinds⟩
  | add id fromId g => exact ⟨deviceAdd2FlashWifi_inv h.inv,h.kinds.add id fromId⟩
  | trans _ _ ih ih' => exact ih' (ih h)

theorem powerOn_wellKept (selfId : UInt32) : WellKept (powerOn selfId []) :=
  ⟨DeviceInfo.inv_zero,fun _ hn => absurd rfl hn⟩

theorem reachable_wellKept {g : Gateway} (h : Reachable g) : WellKept g := by
  obtain ⟨selfId,es,rfl⟩ := h
  exact (powerOn_wellKept selfId).edits (run_edits _ es)

end GatewayF411
